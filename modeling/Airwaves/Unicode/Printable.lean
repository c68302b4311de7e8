import Airwaves.Unicode.Ranges
import Airwaves.Compression.Inflate
/-!
# Printable characters

A character is printable unless it is a control, format, surrogate, private-use or
unassigned character, or a separator other than the ASCII space (Unicode 14.0). Quoted
text writes unprintable characters as escapes.
-/
namespace Airwaves.Unicode

/-- The ranges of unprintable characters, in ascending order. -/
def unprintable : Array (Nat × Nat) := rangesOf <| Compression.inflateText <|
  "LoTN7=^E?@&w~bNLx[KRVFrV)@Qi_e@)%DTg^Kj~:7sR0NJ,3*xq7)J@^R;PoH%fQMo)?&u^(g(iNPlzbwT(Jhfn~z=(32=mI^mgt&xKzx*n<dV.CePtwHQo@k[Ydr%>(m^$~xe]g2_%xW+WC+EXKV" ++
  "Y$Q_c7mJy4?Kq.9N>SooL7me<T+ZcqXW?qJrvONEeMRgxMR_q~%ToPX3tOKzoT^J!NEu<QoRqO4Il|z9s(f4~)Po:Kh$~d@7h[h_QxhV!Ir|6kIsS@kG@J^yz7QHzuO5vTw_eNrTn6,wu)DA@S>~k^" ++
  "Z^q*<NZgjnyz2<PMsy1N2=UPDwjc0sp>zl%12LL>h;)Fi$+5.mw73W&eH~0bd?^xw*<[I4?Fnb^9<WTXsixJSqf.Y>g;^?9*5n2sw_?%iMf~:lXy*,*7,&!?uY2O8UUQpFtw@ZBs.tLKTjG0*^Ld.H" ++
  "9^|FsBbXGtimU93G3pT)y.f3D_|]3tWBpZ&>aFoq$<|H1MR@D8u;Cc(u>T!hxI)YBwx%z@qpYHARtt;+fysh$^6svbqn^g(pYocqRqV1JBpCKEh78tr0,A0_UyJsGsV]OCDl5^Ske4KZq8Ug@SBVzR" ++
  "L+2*Xky8et[XHFAI]=!QNATmO,5t$ILyGLi5GIj<mFxE4MkjY_ogmck_H6c*t*Gi*v;Fd7?2242xJSZyt+Qr*jozE+u]fxNw@2M74=(z+e:@02q%T9+PH0AbwR<SOw7mVzdDOsA5+3gUvBBjDD:BH," ++
  ".hqnK5u0x@*d?jyxG_!QF;M7oBqx&9GEF:I+K^a03=X*TF9z8X,=jyEB>DVFjtW>Ok!@]6AibsyO>F0NdkwkHg4rej)r_b,=C_,TknvLOHM4T|E<kk)f@vOj,sV(KW;(ClZSRO=c~cJnRYP6<2c]D7" ++
  "HkKc_SnjHvV=dw:z2m6hA2okb0N>|1;7x%V>Aeh&dn~5b>](aOXrT1[f(f:r1Y0W:+rM&h)H[7K0~HjZSOE$%mXAvu*XuN|:Em_M!bi1:<~TChXJhy|<hBQ%PwF&MbRX@Oe~E&^^$oH>Zb4aMU_Cr)" ++
  "hmGU6UQ;JqD[YFk<un8ha@8:2WdF(v[dNRw><a*8sA!l(8R97wOySpZWu=_R!Ai3!858,tk_Rn^_ZLlg3x6GVH9cAra<M!c*qzd&R])knI.<tjR|Rw;)nO36T;JsheGfphDEMs04$sr%Sea9y9$kjf" ++
  "<a6T|3nP1CEvrHK!H9ID)2DACHs5m!M,7fjO4ym99G=Mu:sLMogr5I2to.6|=RCpkM>[K_!?D1p>;+S9y&kfqUP)tpQIZ%Qimvr*Thu=y)MKCfku~?cI+w=YV6L?unOWLMhD~:s+iP7j]MnCe9B59B" ++
  "h??V[EUrRV:fAjkkDQEk8|L43F+fDvwAm8q[:!+y]eYF~N4s!:iqnT&A!QM^&v:qDWoWo<M?p?5B[J&Uj;2=T>dRcP&M.?MX97kULvq:rij:5k(hTS+g1uBNkk8o=M.9ZN.ZMjr(!Xt:kvK3hGii@q" ++
  "&Z|q7Hr:UQyH]yz=wRIjN3&||:f212_)fC;C@E75Qb|ac1M>Mz]]9~A8e:4jA]KSGFg]Z7&mi(lWYUDllI;?,hnUixf+=oG%o9mR(pkAwy>wanz!?or8JHG^n?z@*aDcBaykX?h(A&VL=mm3+psXr4" ++
  "B3WZ4x&D!*C^whvRKa~%sirGLcGZJGYt7N%XC1wYY;hA13YQVJ=W9S^FUR>W7tN2gCUUkZy<vNXQF8NXR&&GRK1~zkK)^Q6kHg!|+_W1<u_0FLw67a|6Lvc)z,Fs:_)(u!;JlriCN6|f1*u&(57BjS" ++
  "I;k..9&lrQ]YX2(vc8YwdDo32]H~bYH7*5cfq?<?eVP%zx73=;t8cYKDR]>CBb>He=]p=Lkt+;cH8vjFY@uT$ICGPp]m7]R.CUs,_Y~);@I:)6Q!z?tACV&XM$?|kEnsPdl1<rcTifaa;MV2Gj;]@>" ++
  "TkttsoME:yG4Y2YdSgK]HH_K0EP*Bpw5p:nHYDjGeY2zbR_&SbmSub<TaJ31cHIO<]2.;xVMpNJh<jerDKR;SR):ixIa35dxASB?.p)NCuEpIz$X%b;V5J??&YZ~!NxfFiD7Z+qBwh)SORPqtpA.h$" ++
  "wH.irM(m9j;?pEr,99Ref<Uqz^yBvQd~U&DoCzhyo0o_ToX!3=:L0+aP:.pT2nr@BUn1LJkE,TP8*D<|pdcWVr:_!eIYne[aD?6IDmPl:DvJ:Ig[X0HtKCqv_?yP.v1*cs6~]Q&eKmOsqdXJ6]!Mxh" ++
  "P~+Fc*WSzP=e^)br8mQhI92cjv9ED~7+7PfhL;lQ)EIFhdVnD5[KpXRIVc.m3^LH|&a0|HN%@eHOi&4:>J:n?t]guatl9.InR_7fGbqZ=PF6kH02!L^URxll.I3C&?Q&Zs=duir?mvj?2snl<@Z%LR" ++
  "t[$4sO!*:WWk;l:=6D!rC]kiH6HdX^C?6dPj,9JPo|HZ=v+KPDF(rXqC409nZO]+RT.%gS.wr[A0SfBj])R1F_8:$Y^i]y?<wl5PB(pNP@AvYZbIg!OgvD^wrF%6<LFN(!dG96=_?4UUa]](KZ=^Wf" ++
  "agzw6KXkNRqpZcr4>A>XY|4O8p_4QogTA>z57q5BW8g8Cc[.ZcJF%?bXSi&Pw.z2x=(fKu7PUKygE$MsWlQq__L9y]4~sOJ>>4kK2CmDebiu:AQ(PGX6L:M.*~a4bQ!V=1aDd(&i)qA@jPz%cG]jyG" ++
  "l%W(9D%&<fqVW],vL+toitVRRqucP7l|y>bWTkzUVd;1m$$hCZDZd%9A==N6T5KMrDb|QPrQmP$cC1l8D(M|hO,ajs^Q>WNsoc+Wq=<%)m^KcrOchN?O.1?vW>SY,!rAu[8h!682y<4;a+9;D=qE,d" ++
  "PGi6EVCB2E+PbPk4DIEfX|eshfU%ZcSUp?MRS?p@9QjJQj*=i0BNpTquUMFTfGG|x5jW(Tm)ap5%nQn6?am:XOt6EkiTM_ZQT?<4j*>fHm)CW<$=G:%l:RERGXs[&R|NFsuVq.jtpZWS:7[HM7j5OM" ++
  "10L[nke1o,tY9lqjnF47,B!hl,T$&l2Us@%>Z@Y0:,lkzMwWb*r6>W;v8$Y=rG!wcG8]MjXD=8dWG@u]7)6tK^H))>^H))>[Vh;6o;x8y=*~3SnY0gqfyIa&?]qk%ZTEUViU1&6cbquZD7)8sU!WED" ++
  "NMS1wS=+>TKUt1hyw[SCr[B7ax6Kp%<5_XRtf=c+rm0Zdab(aWu$zAWLAr!XiQ|txuu]0gz%:$,,yO:Al.M,%;M&$UQ$21LQwwN[Fx2=Y%)+5NJQ[Fpj6:P<a6~,*nOrgacqx_,z&_MkbkXbdVYuA]" ++
  "!8LC@o$$QiI8Tqyc=@g0uHVr&.]$nexTN?8@O?TDT8khp3iJ>K@Sr~;CYEAgxM,PWPHAWm[xym|]aJZ>dIlo]y|p$xv.KBES@.cTDj$xhR7p8x?MLxOOv9P1wLmZuyiCB4M7kqeW:Uj"

/-- Whether a character is written as itself in quoted text. -/
def isPrintable (c : Char) : Bool :=
  let n := c.toNat
  if n < 0x7F then n ≥ 0x20
  else !unprintable.any fun (lo, hi) => lo ≤ n && n ≤ hi

end Airwaves.Unicode
