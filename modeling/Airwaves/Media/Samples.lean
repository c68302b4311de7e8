import Airwaves.Compression.Inflate
/-!
# Sample song files

Five short sample songs a song file may be made from, packed as zlib streams in base 85.
-/
namespace Airwaves.Media

/-- The audio frames every sample holds. -/
def sampleAudio : List UInt8 := Compression.inflateBytes (
  "Lo[=LLz%+*z7WEh=Hrs:Z1*h^V(t?[YuSlTR)1|1B^6)Hrm7cG^oiW9Qi*8yc3xGC>6@vSIT0T:1!xY_4P*~O9fQ_oMljb6jltk]" ++
  "yYqD09VcGdJY]l@vBfl%_PwqH[:2YReUFYhGn@:f,aBBQ_rlL:)]yAGUJY9b(ala7^2;+$9a~4$;UH0fV$r%NEx9VbqUm+[sUna^" ++
  "+fka),L;iu<u?[D[rn1h[z!3(*LYD@O(y+k]pJ+tp[J.34R3|g.GjTm!z>itUJ[8?aczh$%fPEg46K]eMO9.=u:+|^Q,+?$N;@Rn" ++
  "514wZe~JJWCF$AGi;L;|kn7[m>M9*I^R7<NY1)U!&tQm:,.emMp_p*jb=gsqp:WSRonsw.Cf_)|.N5tq=4o,A58zrQgh=<GU*@!u" ++
  "!Q(jJI4Td!xAB&lDXWVc.*$<AWP0&!M4S6oJc=U1G~y&z.3ipJMJ$)z@_wxJ5hRf?>j8qpxm9r$nZF$^tDHjsB6k^m(|D;]slRO@" ++
  "Tntc^(,Ku088q0Ig]MuK5x2K@Um)!3yW6Dd,E*4e^gM_(ElJYo=8dXC!]f?BOt$zviNf;itqBpt6,.nLy^!=nr(3op:qWC]xy2N!" ++
  "hu:sB:[,E6q+zCtJz4$EWXV)js,)v;+*SKQwivSyF)f6s[23hCM3<tYky^n$Ym&*NlWKQ@puBJgVUVGE<>oJt1H7.Jq1!+Eo>FM$" ++
  "KjeZyV7O:>6u,A>)ewIBsmQj@xqLkObl@.@k~OU=yln8UmYx+Xu4^C(y;ML4qcpFVV]q!_lr9|aTRbj^Ou9kipcodXn<JkcQwXy%" ++
  "c;RKm[sEm9jchCg.3(|iG:@qJZG@svT!y3W21,|Up0044tzeHdn;e;xJ>=l[s!K3ai~&:mXVhrx<4q3tubKJpP&3@tRVdk2M7+_G" ++
  "d7fv^=yW^xqd_U94JPwIGHzn2EpYI+IQhWPMxqd3o;A!T^ms)Y^wVu!whReqKr2quC%wntaDY@F@dfyi?!C&u!*(@Gh?lCyLP8|p" ++
  "M2JbuwDkWCfE]J0V2<!&Vhb@pRP<!3_VtX:87s|tKqPMHikPKz!ePheLE&U8Wk(A2F.IMyDnnq]=)yHE2yYnE4F!ap72w~eg;Vq]" ++
  "CiiDdjqSfXRRS?nUtN$@R>OTKgxSv85ZSCos:6u%<[p>AbC.tt!UCdEeGfBrjVzxK)|7h2D0aR<,4zRtGochJ:s|t$Y*m:jfJHtn" ++
  "XEj!YNEPd.rw]&o)9M9ZpXe0^.z.[@3|Y?!V.6>Sve!]nPfBQauBmmfsZmF^e%oHX>oPAy%guy(FI3N0n:wHbp>&?Dxt7(usG4e$" ++
  "EP,N*y?JYTLPR5AGtf>>=$W$q3bns2hs3Cw%v%O^**OL@JP^g,86P<^MqrR%.?=ne5EjPkCwtczZ6mks)vbc.ghQ5%<w&Po&RJ)5" ++
  "w(joSOA=8yS]&Q3N3pZ|qkFdPd.to&?(x;YS;5LALAhGT<eQIt3vWr?;:3U2or.$?e:xBD0LjuQs4:(cW$,b+<P=TnyIdq)Mf)(C" ++
  "S]y5A?tuN[uK=|kL[+S>xe^7V$lIphX<nX=SIG_%g!|^WnB0pNrP(qUwO|JbKS(Y$l(kyC);|:DF$:x.DT0qv8ryX6doHkFgmPJ|" ++
  "e[R?Uf(f,KfF*iYdO9*^n[<HvxDYyx2NCp~s??9)LD0KNBxE:w_<&QWjK[>Hy*%1e*R8fW2XcE$(,>tMwJy_27fERBD~ci]2.q[Z" ++
  "_zRjQxt>Mwpty3n.yzEN=!g2:nWiI?d71eF)bbV8hMJmSYDLs(*vIcm_o;>2@SnV+aQGZ?)!KbnPoY*Gl*bh=)$eY0BLlgiY0fmf" ++
  "fq8V=7tYb%Q$i!Kvj.LMCkQ_;$Rn.Zki[(,7z.HcdC+nW[xBiw>iMCx[bU?u[G>iTkLhcn@[X6]xW,1Z8e_U=&+yW&Jd@krXB@sJ" ++
  "ERTtog)Ty3crdHYV@?~H_Z!Z~AKm];kn,VkFW=e|evA7d4HuJqHu5)%y50P93&Ru$m[Ix!?:!ZNm&,p_mU<1+jN<L$)uO<jmVMQ9" ++
  "Xi$E6Sz$F]KU:SYN5jtkfIwvvN>X[Qx4o6bjWzPuK:gOh%Bu0Zw<j(7+$)v?rW*BrKP8XX3xE3KCnV_89TRhTV%wDB^hqWQ[]x|[" ++
  "of_HC&Hd<KH7I2T)*k=)dG!**J=M7HSjPKo8fF;rkD!pR!ReAyJ)0(o,ywh$3f(L15I~5wdss4;=%&u?Jbe5a6C=&[cowW|z4Hoy" ++
  "Swjf9?vMiTy$!AAx?5umn]i%)5cvKVN1S?@)UI|4M)>2^+g@Jc$DVyR7liNB]$2|mBm*K_ZCI^Q8JCpy4i2je:COjcZPY_I1*1]4" ++
  "@)=KGt_aA]vJvvQEotjPA)Li;7~pa5Nc[?nSZG[=B?tYJuV*6iKXF:sf]K~[gxe(q8Lf_$pA26UN*j14qd:WJ)fU)%B[6p!4[|<O" ++
  "M]UIGDb.H6ovpS,s>p+hBE_t(uyCp<hW+ek95mV6B8]QKFcUs(G)Fydi3F4N^Tu$S$@T>.D>%V.X=!m>kaB<apNR|X01vnJ@,CbN" ++
  "3Ign=!H=hZ%e7c]boTI<vB5(>Ri:u7Z,Z5WR,(.DlXTUyGC*<&Q[F>Ye2YgR&m:S0aiF%ay;jDpIF9UGheVArSRC9[$TiK5G1;Fm" ++
  "i%6gUXO,Qf1skXN[8g]uFyCqsB8>gB81C<oR2>GlKDz[q)pR??ePZ_QCUaNZSF;%Oq&8lAwwB0VZf=y+EG_sXi_RNZbI)]@>Junp" ++
  "Y,tXlb;7O,(i$d1e5iR=xKHqRc.HADGkNK8^Zx=WQND$ixUxU4q<L4@lDe*[SIdJrt[kN3G?sBuXS8cSsdsw9e>Y|!hopQVw%F?9" ++
  "oYrlhUAN=~7+oAq2yg(>lARD[!>:Z|vR<KZ(x(=[_,offri_G[+U8*BH.oZURVRnIM%LwGcWE8^!Cs0RoYrj!i$mM)*ABNr+F?%c" ++
  "FOUW,Fz<_6u+,+q%D*xBH1hwi$SRhyd3CmtduIYv+eLZoD6b_a[(NJ1sv6Eghc*(y;@@S3jfwWcbZLHqcY<44_S?5aULb+kO7J4I" ++
  "Cuv.in_)l$n?]PdE8[k4[d=a_eLw1HCuq9G,*8tjk&fp&nf)~R[s)E?^0%+6aF>pEO.tCZ8_8&L?_yS*Tp6[hCQVcj0zEJUlH73)" ++
  "PBT)WjUg7Jn1+s4Q)t1y2=NFA*,$|kw8N0*o*LWL._ln;,@aJuT)SMMvw0.oKR,i=4hbzqY3ap5Rn~N^!1dY~R0,h4yRZlsc~X|^" ++
  ";ZhEhm8RA[V]5r)jV0oucc$.)DO!ExKABsWX7,tYn?,AON(Fp=Ibm~wJS6*@ZDoy?6EKD8gRr==l*Ef*QXDnkQ5R~XXdbhi7t^D[" ++
  "&[45*$M;<fdZIe7bJ5;4hOH;=o%+b2GC:7B@+I5:8hG6[F&h?Q<P]@wM=b_ID3Z^n_Lf8Cm&hz(0:9kP4Tk01LDj(.Ka!,5utMqw" ++
  "a*CSunJsW0UggkFoy.faHdf(DsS1GL9]j,HnM|3eB|B?sg4(.f[u=n@uDP*y@OCvRM;BX]tuFtnIy!r|24Z!6V>G48Nm6PxLfo:1" ++
  "w!9I!v*i7GFQ*1jIU9xRhST<ip.Bj+sE0P8(lGU~Sr1:Qa&c%()Skiw+Z@FRZ@Jkub?1V[n)Hp5O&1jTNOuY&4H!Df;BQ=RFZpsM" ++
  "%249SV]CN$@*3<CB]Hx_j?WF.c>;t=Yc3fC?PH(PPdi3Pi*gWI;H^xeg_qV%)y0~0%_5c<]%j$qx2kFp@s@l)ksHO!2B;HY=x+eL" ++
  "Qdn$Oh1QteFmm]oOdy3T&yqCY&d3F,.t1C_UMwlL>?fs*r:ZmZSv>WgQ9|zMNXp60g(Ob:kk1~_lp_b2.VF|SptRvA.n8x*]x=P9" ++
  "!iVEdq?<8wHZ!j!v~|M^wKj=KU0*2Q8r*JUqPA(].kbBN:p~eysKgYSCxhm~pugv3xg^6Bt2,aR:UTmzd~>2dWK4HS65nAtn1+K8" ++
  ">0%SHg)Oj;l@$g%[^%!>DT0OtDbLK$dX&6(]gSHdIB%U&B%&xBA,F|mX%+I%B+__G]Qj[Tnq(A*U9<Gx+~LH5oF@RU8s%j~ld!dw" ++
  "R!I39g6aB,Ck>i+3xshVr1)85:IAV1HxUUt52>;?GWerptL@^~Hd$7CfnI%Uyp1M_gL?xcKs.q%m@5CtHW0IMi%5^WJVQNSJ3I4T" ++
  "LUxB9cB0)O7_qE.nmn[ICJ?O.f1BvJh,S[%TD,6A)gfF0a5BZw>XH@Ee2D:Rp__yGIfEMOWxOzpTk^7pxcXV+oEzB$WVY)wG3Hwb" ++
  "q)XUk9o+@4n<ic~q@MMJLUn2VC@*X9r0%YA.jQ%wML<l=erU.uUP|5rd5V29>593j91o+8Z86P=Ysos(^<[U^ihz:D]L6fIIW<5s" ++
  "yt677::06)*q6t*;&c^Fj%>ul*wc%.b^)o0N+H^g9=pL+[fx5y9S>OIN4e!FlMg]^7S)yKwU%,Q*z;QcRO6+q2als$tO2d]l,Bzs" ++
  "qw&l>Zrbc;W,Dd[x=aA3?sz;.xuNW1z,IL?s[Ty0(lZqHO[ND2%Q):|z=S7dCfDOy_[wi9z4)_oj_ghGMpDH)4*x9:=2ulo!@*|." ++
  "%si1oyz)G!z1b")

/-- The replay-gain block every sample holds after its audio. -/
def sampleGainBlock : List UInt8 := Compression.inflateBytes (
  "LoW8NJ$2m4LJ*1OjL<mNexki5!!]mOYWc(YxabuQ9.wiGxn41<8e|lDWRi;.Wb]f7F[99pMsTGN&?>BhXcB)Q>JvCp*5VeO!z=^a" ++
  "*NTFx3Pgvydix<SOCz&@ivK$%[D1m|!1kV:[C")

/-- The frames of a sample's tag, by sample number. -/
def sampleFrames : Nat → List UInt8
  | 1 => Compression.inflateBytes (
    "LoSUx&v,9!E&$v1E4Z&^PMa[XW(d6!OPeH+Y2><B.VZ!M%ddP[!c5B(@y_sbfp[m:i,k!3qV~BDA:d5f0m]K1&QZE_[&38c0Ych%" ++
    ":YyB__beT(2GP|rT14XsRDz>)GYSgs@3B2IM$*w[DD8D^eYYAD0M]&<]!pannJn=")
  | 2 => Compression.inflateBytes (
    "LoSUx&v,9!E&$v1E4Z&^PMa[XW(d6!OPeH+Y2><B.VZ!K%ddP[!c5B(@y_sbfp[m:i,k!3qV~BDA:d5f0m]K1&QZE_[&37x!68>q" ++
    "P,")
  | 3 => Compression.inflateBytes (
    "LoSUx&v,9!E&$v1E4Z&^PMa[XW(d6!OPeH+Y2><B.VZ!O%ddP[!c5B(@y_sbfp[m:i,k!3qV~BDA:d5f0m]K1&QZE_[&39L!6;Ht" ++
    "Q)")
  | 4 => Compression.inflateBytes (
    "LoSUx&v,9!E&$v1E4Z&^PMa[XW(d6!OPeH+Y2><B.VZ!J%ddP[!c5B(@y_sbfp[m:i,k!3qV~BDA:d5f0m]K1&QZE_[&37V!6>Rw" ++
    "R%")
  | 5 => Compression.inflateBytes (
    "LoSUx&v,9!E&$v1E4Z&^PMa[XW(d6!OPeH+Y2><B.VZ!N%ddP[!c5B(@y_sbfp[m:i,k!F,g!+0x|nH4uLtV$H7v+zJ372,Oubj0" ++
    "^!+@t(qwWIA5EVg>JG~E+ya")
  | _ => []

/-- The trailer tag of a sample, by sample number. -/
def sampleTrailer : Nat → List UInt8
  | 1 => Compression.inflateBytes (
    "LoSTKK?Zxw4s@v$j[(BuFFFBZBpb=$>Mbv);Y2Ar6g.8,0?+YgiZaND>CyTc.ysLQ)UJ")
  | 2 => Compression.inflateBytes (
    "LoSTKK?Zxw4s@v$j[(BuESaI>vmI9cV50<*,&w8I!%U79Qd")
  | 3 => Compression.inflateBytes (
    "LoSTKK?Zxw4s@v$j[(BuFmxoBvmI9cV50<*,&w8I!%[68RD")
  | 4 => Compression.inflateBytes (
    "LoSTKK?Zxw4s@v$j[(BuE8D@=vmI9cV50<*,&w8I!%c57R~")
  | 5 => Compression.inflateBytes (
    "LoSTKK?Zxw4s@v$j[(BuFccK[Bpb=$>Mbv+;Y2Ar6mxRYONR%p!8bHV+*")
  | _ => []

/-- The size of a sample's tag after its header. -/
def sampleTagSize : Nat := 2098

/-- The bytes of a sample song, by number from 1 to 5. -/
def sampleFile (n : Nat) : List UInt8 :=
  let frames := sampleFrames n
  ascii "ID3" ++ [4, 0, 0] ++ toSynchsafe 4 sampleTagSize ++ frames ++
    List.replicate (sampleTagSize - frames.length) 0 ++ sampleAudio ++ sampleGainBlock ++ sampleTrailer n

end Airwaves.Media
