import Airwaves.Compression.Inflate
/-!
# Translation tables

The phrase tables of the shipped locales, as JSON text: the master table and one table
per translation. They ship packed, as the keys and each table's compact form, one to a line, in a
zlib stream written in base 85.
-/
namespace Airwaves.Locale.Tables

/-- The keys, then the compact tables of `en_MASTER`, `en_CA`, `de_DE`, `nl_NL`, `fi_FI`, `es_CL`,
`pt_BR`, `pl_PL`, `ru_RU` and `ko_KO`, one to a line, as a zlib stream in base 85. -/
def packed : String :=
  "Lo[R|CJ>jLUwa?fe[[yCbDz8:M.@0.4|0(F=VUE7Fz3mXP6Q:YL^jx9QT<,x,)8N2GS<e0I_3jCEZB:j9aih:CzQk:)EXG9r~z:RFh~Co=0[4sW&qK;<*dL;?HFfQE_]^uSo.k):HWp?ic0<F]|%_lGwB[HGM400k9KdQ.Q@v(]2]RPB(XbzQT$))jQa%vwQb!$2OF5~^O366JFMm.mo(IYZYooNRRjI~x5^1n)HvBs_fe(t2Zn4L[r__8uS:$>=f2wGK[di_k?h?aSmRsTvB65Wt?7dgx4E<:_rpM~*pd6=" ++
  "<Mu:j*WF+[K$I;vh:wgxB1;@S=VreZ$5PPVAT&De6(&Z=cJaQK2vrteBFBbj!ijtRk<ScqjImq5C+(H5GqEi|]qAuQ_l(;[2bHn]*pnoNEm%7bI1Q$!XytlF>9*20kVw(K4YV*I+o?.&i,fX71mBDNG][=xaN*o+NCMjctlaWRb$|Q,v*kvr1suv+bUz3%,)_ST*KY0]t,_v5CumbfGvA[DW!QLa3e&]+(0E7hK32VviVA11VW.8M7p<r:+sV9w6Po,@):U=B<]G$D(PL%QpG92gbIK~7gCQZ<lna0hjm]kP" ++
  "5dle|b,BfX*99uegH^@X._ZFcA|]Av(TQYq@A;<6>s<!h?ALwM[@Wsf:B!6Ka%j66:tazuV3F!8eyj_[DHvPOW^CsU*4q43YXs35DZ^%?J$eK_JE,]yEnxdP,eZ5MO%xKIg[K+T0;,7nVa=Omwehp64Z4b|N9mu2p.ThUoFo@R*!t[)b_a.cY9PpY(dFpb+sI;GnpRwL$hO>Dgfw?qPNi(YRXmpWYQhmtO<[%hOZOQqupEl$q)A6U.5ArjPslRTuILyj=Fqf8!m_)z_%OSXlhIO.tj9!3q1SPlj!Lj!E&Qel" ++
  "&:j:>lygbW+*;mIdlZNAv|8:W<33?.v22Epv$(Rdv4*^;z:@8L,LZlqev_6Ss<oAe.bdy5X21V,q6+Ea_ftmAoIc)NMZEWZV|NA7M%I?_OVg_IM4ENao~d9[hcu%Vt!B^r.28p*6<oLmbZfFi)gy*Cu5Jp%%BaD1y::=ey2O3.T0I$VK0IZn00U3OAtfYpaZ~CvL],BJBXGh07:wo><%bfY1|Ouf4Iy|.0ZlLUhrK<98HVpg9H=*q2LYx5hmx5T?tAWhOs|ou[3@l:Q4QPf1(awB;wSavrz;?_F%vq<1gkY!" ++
  "Obmig0YbJ31>:!&e%=!~1ENRbCmz,2Y>6A.5v+,_]UtMUl%8BQi9*]S6lPQ|y>~axn~&%CPcFZ?,)UZq5JH.R3f]>xvfVecQ[[ON6z>a7d)Y>fgD>i006GPA38,L?G]w4C(nUiWW0fZ1ERu~fjaKmOXb0THVK6k.qeG|zv!8F)[;,CPPu2FOV<0F~PZCdovM;zA]aOY.VvS>00aCL%&YZ,LG%zXqEyi+V36qn=0~Jn;qr@PUWM8z1V0^~@>3i.1kR8TaQc[FDehU2zOx2OiGVTSzsGYU4L_&UaRu9S,4>R@Y" ++
  "G@N!m<!72eo=7d+V0GO.9BD])T2@bM8E]b4QeIN^MbJFPQR.(POHiWtG9X4S**UMVe|x:$R*z1rei50$:.[0e=qyMShl9Kp[<Y@0+peZq$2tE*s!K3=:=h]3$J<eo72xjJ8h8jHtkxWC*pa0(>BkVf2k(86C]Dp!xXh.g$wGHjD>8YgVN%Pe_N<krbS4t(UIOXIq91wlynDj=KxiikK9YbsV$^Ew5B_3q!@g[4OglCLMg|R0=K71P;!@$uiOUVIjyT^x]*&Gjp7Dg^a4+vc]Px1r0Lc:LS$tvW=4Wzlep@*," ++
  "LW]|>)F@@[nzr[uhAB,RE]yBH!V1t.%)Qf?nxLLh:aBbJpgD5yfguIKV.097A$*HY]*uh;]IFZDd8Z@TLR%k;MI8k4Uad@Q[?@Vh&3dW:68%FMQ,W,S87toJ+2R0><m~?YGM$Wy@_Fnnd~,2[GZDHzI?SGehjZB*.c@6ls@1j4(tQBw<[n!NjX?%7BTGJlE9=mNVBNhdBUim;(l%<!E&T>l:~H_t$gy<Vvy2M!frLm0kq=,iOSLpsBHQ%F=LQ.IHdE3+,YHnG=JXQ>&eEj_RORGYC^1KTgk)?^N5O~[x_[+J" ++
  "]rO1]nD]bae(*c2X$[%u+fajqba7OCeuMB6JRc[,R7.^@oM<iC^>[Zq(!|P(KIrpY,&MMjct)Lj.;LTF?DgFf1_8JR[s[%*P?o>!pAba4W0[dRPdMmc04m>?yLZJhw6PaJY34~NC0_Xn@1_bfoN=1s8c4Y_vCGiwrph+O8fw[TMXxtD08SGGO8TXH*_yPUXUV!T3U?TxtLQKQn=f,5(FE>7yd45Grvm_bfT50m+EPki8wXFs;qGPqH%~Fv3<L^se!f7BJtt;S!U2^+d*Cw4XiyX;kp9@]+Z17u4i=*NPy&o|" ++
  "Sw_r>aP,8v(_[2)8PNZ^LPXuZ0|DQns0(.TVuf=d*]Nl4N|R8F*elNmpDf+i95:rMexCaPF3X?:.RuJ4qFVz8_VJVC^?n+r*?>yFGhbt_$$4zx1T:.$;[.UL*s~=4(pB8G3$(I=)&|j!svJ0I=o&(3cr;zif@Mt<Y4wTzGq56(1.uh%<mj;:j0GUZ+RL[!=WG,S[:.$.3iv_>[SadNRx2VaC)G1K:p+viR^2F76*W<!aRCVke77At@7dQ|l4DNS>>l!ciZC%36j|Fa.>(.DTCNh%^1.uMZ;,8sRr[B|KjwxK" ++
  "LE:8Is,~K~bNfEUjC4UVly5m)<GnBux*>zr_=[cq?48!JaMoLR_q7E)+qPu:ssW<,iOvn*H+De;S(ju]B*Et!4V8W0e.uUZ(ep_uU!QbD)8Q~h9NFek,0ANz!xMovF&@04Ybx.s,PlaqB]m7>T)W&4iOjsj%Z^(8qBrW2<?fanRfhNbRg4=GkevR.^8szuMMEDc68K,bL3,3,=>RSiLZXA&AyhjiY)?gLg)bC|U0p4UN<nCFvm>J5gcwkzewGr2@knt:ltU7Zb7tX?)qiWc)6LG.E%o$^uCr~j)Q*M@:6rJI" ++
  ">mQGXBItN9*k8^$2I&iZbJ+M|Qkdnd%g>hBgAb;eFgd53==M]z>Pmrm&(AxZkp@J)7kSm6pruF4yGcfg$ur]W8PB8r]7kym)$hq9Qku0kYkW[=).B53fn<4&FWAJF;M]1>,h8$.lIeUs!f~>EmI516pX;h]ZuL:x((v9c1u@@>Z%U;XVBRq:23zxD?O!QGb1uhm@.Hfn<<T<BcS])M9~n9<NZ($b_3:_0o7gSHh(jAn.[cZDo7mAp:OM+dvMWd=;^NNTi;]ni5mLUhVV3.Nxp=HA:,njl(_,A*rKT&q.0zs@" ++
  "6RIZA<WPqR5r=qE]WB!NHC!WFX@dW)&CGeVGuy,0jv4X^^_!GE$TL9zvpJ(D9qSrFWbm7L>u+U?+<7O!%HO^v^Cv@k_AesxK0yoaBt[R?BTm0mxBYOmC5qQwEj^X4PIAR(h,(f|??@)yTL]IPN)R:RJYw;Zo,+xVsD9&6MtDazcIa;0gn(Ow(p$+C4v;ZAi0HSmlLkWBi_x7DW_|fzWu;],IkH+ep?Nm@t3UHH,8^K2FO=]$$:.p;nV>+[WfASy[0kCrh8C$BGV!:B5*8hzIr>GfQ&$SXSCaRIW!8igWz5$b" ++
  "XROnGD+*R+DpXoPwY^Cgbag;2m)):pd=5I)teO^Zczirk8W||($rpYFcfd=e7c:5G(Z0>G_<83GiYOnCyP5b]IOCBVc^&LP7<yBaV>f|GgMK[+R1C@:A)t~v7upqWK.OGy1K[U>HtlK9g+*RL7t).^Z^xBsjz^OaRvU;NjiXa|JbR^5.H>KRx(bbcK88^OQ+YNk8^=&L65Sx4UmIWNYsMRXqP+!rKBfb=BjeLWan.yvgJ%X*qjBN2*&CM(2I7sOc8kc1C,tk&w4>6cXNuEg4Yr!LKAKI8a845OT,0S,R*~b0" ++
  "I)]$K:t4m)X4Yo^0]ndfI6~:VuK:lXCf:e*DD4*N&:X^Fnpkh4o$a[uIRu~*kZ2S:$aEYvii6SkE(JZnm|q@@U[gAletJc+<WJkzV?@VdWI3PigM%I6$|VUe!o*[ha+_FuFzOp[*FU~iN;bpGJIbQYL[i6PUmK^G6VK|5j5mCZCTQ~Wq,;[ZPbBkEyr,K<szDz=3kLk:.cY;G3ba;?v~BIpjWj>ax.*dFca$~Co1_(s2Y2TVHtWUqmYbkFM)TYIB>__U$=IvO&a:R6P91.mQPX[:&;<iAe.2?C+:Hm=]fu|8" ++
  "ZKT<*:,.NLG90N<[J1EfR>Y@hjY;joQevj.@m)dc5pAd?dvsYxLVK.|bk2)(,(^.8JA.f7AQ|3>d;mE)VC<Nr<+H(Q;EK8dM*;PME($e57=&$OJgt5Zw%<QVkozd:AxgxAIN(*XRH>gTd4^U0.;A<*7v@[&Y[eRaB~>!Xt@;:8TtoYTvzDu+CxrIUy1w+0DO+y_Wjk[|C%O^Cjx6(h!w(>dmGonn.<DpnCp<xuHm!I0t|So|D&dHEhw(p5k%62CyHBCmpSZKeQ2X]JTEZzphPn?$Va2WCi&^5w:^y_LaF.j|" ++
  "jjzihLPriiGjjQqab;Y+v~~8GfZbL+CE~vVPsUnSFqb$5!giaKjDzR>Jumfi!toxObyD%*7Hj|i9AOrCmLF|JZ&VanndEE>=q;x[k&(jvL?*Tuf9D1QGzY5*h8EvHYoAZG08+3):$JRoaH*8.vsuH:99OcO[x3CKtd7Cyt)U=MF9^bHQYu;dK0C3Vd1=8*5ze3yb,u%g>0$~8<Z$E1;DH7y7vwlD.bT^*Q@@tWEd!4XUa89il9w~p)xqZC9i~|51BhMh*ApMMBL+pog]@P>nFATGOO0OnC@8=tw6pj^gwtA9" ++
  "n1>4ZOh1KbRcNG6(V|@[AqTBe9QuRX%K_n[S0PX!u5aQq?$fuJpHIRHtQGR0.tbp1Rp^L?[.Cp_j+qZSSFMF!4ip:GEg.XCY..g=nM,Om)MWL098uiZm~adU(gTFU1=B=*Q|Fk5d(Mx?k0VTK)wm.AizqQNZYJUF&.|~pBx~htt|5PwIJd[EM[)Ew.d57CO2gmE2K6CHR.5*$)2]L25st3XHW&iVM2wS|$&%QW5FAn1>9R!oiQ+Pkb~nw|YcM8r8O]lc,>5DqMC_b!mFzBSr&,L6X8)4MvS9$_dGMMNc(vSU" ++
  "ff!R(ukDu:<JNiBbaAHL_d|SCo]VoIan<(jC>;HM<Y&?k6PtqmGdM&3[4d*VjM|lfL$P^X%a7toJ~_jqoJ@R=*1WT*P4r|MxXuO^A>2ITfW,8o_^Uv(oick&>5vCO=w&B>Qh(oKz$Zft8=B(VS]G~Qi++;UB?DtD<Mc^GR8;w|cyEXhT)qGQH&OXSnPI(I^7h%s,w$%bmb,njYc6e|y>3yrgm]!zN?Q*2(]<w%msE@y$X0X|1IZEEJBS?8rsA~.=Cd8&)6!O]d7bvd,=V,oPkjHT!,D|7*%j*|J(_3(:WOdP" ++
  "XNMv2EJ7H>;IEqYYTIM=,]|R&Qs)9Nc5N0Miw3wvEzM!f9~AQpPuNlG%YnbDNfb3,Iy3U7,tAU^v)rZH[<K=yVS1cE2x.xKoQU5:dELipQ@(P8^usAd+NRmKwdqt05@4w&jM6Bjm[7jC>V^_U%iz3dhM=f<9@5.OTp@^0kCB+dun$soqD:[,XxIK>Tcxwgn58JS!h%3qfG,RgE]&EMB?fXS;@$U(8de3?>m;8jc$N9HbuUUx1A>_Fr*B36YmokQrPIZjSV@A2VwrBY,(LV=cyG>b&~:Zifd7@]$@:Aqq,&hQ" ++
  "AC=O)D@tT&OrXZB1T>SYM;RhWSjl~<cjx~^2*7IF$rM!VXdt2=jL0<C_jFlgB|33KH*SOz=r=!FqXD2@M;ixW[IFB.bRzzc8+w:ifh_TW,luh(j31MLK^<kybyapwuo,%AnM+x4wO]tx3VPnnJN|Z;DZ|<]uS>K$9Li(sN1w,8&u)@]^5|wz[jJ:vRv!GYV9CoI[2Gg1ohL~o4Q|xJrQ3fS>m]3?<P7&8KBAw?.l6(TISVX]r!3|_gm?0Of1zOQ*$hq*guP3t]Pk*:NQKvtpu%klk8_,4Im(FNCnvaBf?N8[" ++
  "(;z01Yb^XH9O6:l(M,yQipXy<7u(T(]q[q~<s9uCej^4ZlYEec^f;^NbM3S+vb@G$Vj>)3Y3lz_4Mse9i^O&_::NcV?yYmsFBKyUe(V9^$r&];)=sT|PgSxh*Xc!9tb(VJi4Qfi5)[IrwOWHAQ*M_6ZchI*TuK=ujC]y&dIPpp6%wkE1__BBwIBN0D:L5pPhh+T>]hNh:~n)p<N%[Nf+xHKB|Z&hCR!$Bi3espo!6n]ZYeG!0es|NJ|0KQHkh5e(FyJPU&e.Tgc~Gi+vd1u(pz*E4~|E$RAvBDwT+4tdGu;p" ++
  "kNP$ThD+3l+WkX(84B8%iI7mH2_R(es+:;eb4S8U=mb.MbhXb[ZXEo:DiBybaCG)d<!oi;U3I07yQrhd&LPao+4b<~!Ewpp&aL+$D(Ev?Z&~)&%x.%MIJmkZk7c&~b&T~NEQgrk2=H$1@M4AJW[oGa.J5Fvs^$skGqG.a9d[Ek*)a8aDu<SQ;^QH>G~m3G4p;EX]j|TvA4h]L.[aFZO>2@i?C:S&LhAf$AnTu;AsnZ;H@.K%C&Z>tU9n$t?EEz1h|Hy:Tg4v4sP38eClC$TjlnQke!1j%ivv9hQBYse8%!>Q" ++
  ".Xwnvnd8hR&L$W$0k9]4KK0%75]kqKwA1F.&_iazdeV^g*cH($7F3n(IEc3at+~hmEw[:O95+p;ZFm$@oOW:4_aF0>J6Xmhh~!bT3Fl5!4Tc8[ch@zl.m(fttJiop.M$Q|PX~(3Ci$egtAK^IK8sK~ul)Uhbp,5wnvcHk.uo!or3se$7&fTJ.5@@8dAJW.*0NH,0CF%9*TpwSI|_TeSCVH&U6uNj_i;wCFRZ=9j%2jd3LLu$:ZkWXbEJ;ukfk+8T7@NcR%gp+[9Hd6^jnC*0^C*Qc0;RKR&N@d<=iN8z6Nb?" ++
  "K_&|7exePy)lzPwrQ0a>3LZr|AL*@N<0!<$z;!V?Hwt?(W*cLsBzXQ22YW5*C>aq,Wbsyw:,VH9(b7Ka?doTG;V!ONHR2wAK5k9Rd?&?Dw;|v2)@u$Lc(w!k1QAC+W!:T2R)S;6owp_VG;Rk&1N6v]4nWWk4f@r8,_aaqUp,1D(AEplr&cH~]QG3s8OG=lbJgyYxBj_1cbt9Skgx45fBUvJ7u!_xBi~Uzp+b[[Out[rB!9;e,5gza@0Sx+F_TOFTzmzEs+~jk@&*3sdLr]g0b;UgWBXI~F<VGj7DQko7e$9T" ++
  "3PQguoV[+vXpZ|Ic;7KCu$E0.*u!VIEZJlQa%~bcWIMeb4msm2??&pVCen,U?w3M7X;gj!S_|=_Rny~:V_~fYWCAaA&iyg&SU2CHlqk~Q<[Shz9*=Vjlx*O8Y[_6L5f9YZ9Y$:G(+l6DBx7vAbA!=8(bF3&:1k@hINO~yGkYe37N3;,ag))MUj=LI>TN0|dFAeQY=P%VwvTMtxIK0!*FH]V+q*!WbE5h%jcBoK6;+al&p*$U4*^cN!jhK,$6fvOnVOf!4cI>I:&)VsYHo&vgVAb&:sJ5((B^yEz=O>;5G>tf" ++
  "C_4@$K2$37PY!:_0>[TVFlxLIh(O20nfCoLtzOwK9^Jc|NJLyRehrwjYQB]77cQWNvNZQo3asZVlUN+1%P*|HL<|<@x~ex?haIgJnoV;^^30[:u*)azjak]gwegG99L(RgqjbDK9lnXrLtvB9H$)SE]k!hNLG?GM=SRnT9Sb>w1<k,Ign|4~:5=Q^v7<toS&yID7iPgaMyTSr8TuZ>uL!N8+Wr?Pt%b^L04eD2[p:^u8Xo7o+~&Tvr|_34<eM^+IC&Hba(I&a,LA9XOsqcgdtd>;a[ZR7q6^b0ss^=~%FzOP" ++
  "yMJ2ZDqhAq<aV$Mk+r(|eVYcO?s1.9oic)M+T?FF$q)?i4O08qE2QUqXXgi9YLdu?yMNmvM3v^urZbP=?(YM&8B5]|v>q$>Mp%qjk<diVdD3eem$cjmeU~hfTKF88Hsi=)O2?(14nh.eNRVhQHYWx_w1QFnoXtT3%eMXI<Ub)qc[W*q2Zv<yI0Xm70x4r%c8zIjE(+ItIJ;CC>&kO~&n:.LI~bwoZ>:qu<uDNLl=fm2,|:;$(PkP7Ji)M^O5VfZL@u^tOg*nTD*WlE4ZWKM7zDFBMFBQI=Quy7H2lIRjY_3." ++
  "$U6c%lDV_H9;Mjkns:8&8TQMx.s638yb>k&p]EXyc7d^:F4Moct6)fu,d;c>T|z[n<ASe!tJ5qo$Bgpj>;S&Rxn&&Te3uau@%kadtCbB;)s4dDGQI(gCm_AunL,0L38?7YE%M;s8yB?mkZSr?g$d=6<O7m2+yqEn5hS8vEssG@%)lNpa)=eM1;l~B*BOj?oDDOdP3.9+MT1FcdfqNiPqS0)dj)=dx8b=Z_0;Y2.H9s3fGv(b.vA6[bghB7w,AK2Xwk9%])S:Z^C!W1*!0NTHY|qjY>vMaYm[P9:;:aVmty+q" ++
  "RQ$R~o+<Fqxfyf?*B(aGObH)LHPXPvoaHC(>AuOv(x;6<D7TBZ2W|kIiT$dQ_[jM.q2K299RaNW3!M^hb(fY*$3T&e)G4Tr4g*9d@SB[_Pn<lYZq^DEnQ2;Sx3zajx?]lm4MnK,mLUH^<6|a0ssrPsMRRlq&5*DccyUV4P2jUuvFhVk^tk%TY<hAZ$dgy?I=hHy^7TGX,DF1s:kT*&?XYMj$Z2Q[%*EDO_k6hjX%oJQsh8cU6p:fpMOi%xZoz;>S>dG4&G(++Dtby9H?dN!UP+e^nZzj%I6pL30T(F(QlmLr" ++
  "g3;+.y(2;1T|uocebb!HKr)jb&eUG]n4LF1+M*W.+O(Tpj2xuacHLJaLmxApwAY04be<@*7b5ugfX_c=3CEnN32*X1*vPRO?ow@I@eN?qme(Xv!eFJ$TqfZVs;&:1Jv<42jjK1bmq&wA1|uXQmnjt0IKH^PwF+.*iY5Rl%]g[)p|)$.*7|>S,!>KE;)$vcb)Pkh=(6;Dz;@MpPwS_MO<d60l+HI]CQ0vuk$D1Sxa9RSQhkwG$!<aLY*h=+n[AWvgFt9+!SV6qp!.s3XTOpHLz.7lQU3gLM[%UH:b$2UMd807" ++
  "Dbfd~XhvX]t])l|@C$rhg^qX1%W.i(?v4S.aMozP>gTGmE4][ZIk3.Y0LifyeP3,[E%8^,M][v%]!jLLnt1WQ<1cZZ&qRf9K6vylOUWVvT!KUC&3vX_e6m2]?ogx.!Vb!Ruy|V%m[zxT$]<fv6?FynC$QHPtz~sHurdaz.mo7o9JwIct1xs>D9NIv:2>T&TKnlq.N<6R]|87x._8jf[kyV(J3cIm@YAB%u[.YYl(57.Mj(=_.;6OSm%fm6^V3_N?p&~)XV7_@m8VWCJH_1nD~<FA$kAN:nZ&d~q[~ziDO4[," ++
  "yF>bo:a2&|V*DfI9pjhUObLtTDVIAvxmr.aiR&d(dN5*c(9tB+Mb<nBm~Siflh2z5s+^3Orb3*^[;yCc.?2p6,x+hzdD=?AaYZxtic8JZVh|L:4kN_F=a+aMQlQjq%,R!MK|O;JEtkg[?3VaAlycWJnB;BS!;X,JL_@ctk~phE*Mn|]Ef7VoEVjpOO&pBa&n(u+z+|K|6%l+Z!)Acm61*jR!%B6,th9q*QqBbc$zKjiJsS[L?jPEN>L^it@1kTg:Q8.5R0UVw++7Z%WE5]J.?]&p1F*BsU<.GuS:lfAi2$<e" ++
  "J1y!CxseoHi?4d_I(&X[l%JZzc4kz)Us*U:feb=m2>kT9&Gh?9<P~ykazw)::ZTFAKmO+KaE(1e!&]Yz&Mk@on9s$p:!7fTrXUe;XS9DHj$&0<?yLw~@1Aq9<v7ZAA:@<C)5>kwO]uMf,s<9G8+nd<!QQYI!W0xAEj6.LaTG,5!c2NwQ,d6)=AnJJJGLv$:!V)Mo[wxdhrBePFfJ)AIZu:QxcsA,Dt.ET84~h2A):,0):YU>t8qjHh|T?zgILvF?>8kn5&pSP0YWY[4O_lL3r2^n%21M26gM|@G%jFf8:(LY" ++
  "Jr6?Qw6yuAgC5)ii%Os(=7TXMX[i?ApEN+I?pXdU[PN)dV,6x_xK>1CCNgI0s]A=4rv:q<:lTG+r^N&ifHF5s1ZQ9a223mO%&kpZYZ>tUnp<2MlcDGqkiSO]a?iZ7KKyJ=$Q8allM=K,N=ONNU^5N?]SJtt[8GLj^w>d3I2(9%W)?&Ua>GUbgGM^XC7KBw6?y)*e(eo@YSWg6T4WZWw[KgmlpIZk?!_c2G&:&b+eAZI]<wJs&oJ)0+z~fB3Oq]kQOF0sjg_t(0Ml.mhcDKT>4)nM>2[Q~YX+lHh|VC37Uq3s" ++
  "7[_ajh>hp:)2tCMBrZv4gMm*(g(x[ov09h4i&+pOHz]^AF.6H3@_DizLNSFyoxz6NPu_B33|volQ;.?8A4<j8w)f7$>33:,$jmwal~g7^_NjT3cAWEs]FYAK7[a=:t_7(lY!TG:A8Msh.ZG&;CxvfL5:QLIobEATXRZU4OMGm[EjV(9H7[*j,=zbUUK9m7@02;GTf<q:$]S|S73o63v36W>O)2^U.s@j5Di..UVQ4wuZP(GSX[FwbBxeF[_Wd5|x1%%!:RrT$@[A,ekS)Ltgb:]0EPQ<>>.YU2(lP)=ae@Lw" ++
  "FF(Tg,DIQ[Apa]mV;ne~3)hx4r?f^H*ZUk39OZm@>a6>NSWfcK3<E!+Rsv*7r)ZRHH3nMnqHFyR(%T=rX9(NCX*m$mHyoa<@cWw!7Q>,.m=8iGdC1OV4DD&B!G>Ius]dwrwg31jG>Gor$roI1$v!V75)zeP:_*MgP^3_V.B3tRwEL(+DA>.rLx_Z%9w<n;vEuevb|:)vnx=>bZ+I1JdcZv!j05>NIJ6Syo.V(OK6>]$4>rgmyqG@%?LhZ4uKDXm3Spw<C9$47r+4L<hkkvdmLQ2G?.C8|f=bBeL+mrmHL+[v" ++
  "7Or5Gb2UBj;F)Jg1_!TK$XFuY$2WXH>X,9qA|Tce4W)5UCQH9ig>qk_yJI(pVjS7Uo)4v9:0l[gwRw>Fe],f55eVhG_)v8xdIBNF5@Gg4uhz&W:NLafz:ySAEZ=Z]5$ey=pNJ2eRMO<+xXHLjT5Yp*vE4h@%385K43<_$lYyw2ni$fM*MOnjpCg*49I.S$rO34Cfms+[?dfpa=oh(LW,BEsKu4:&?>;,6>i@fb4m0=!9d(.24~~O$Xyoihw)v;l=Zd_rL;].4QNqZ!M.29B?IhH^WPzWSL9Y$adq*(|Cb)5$" ++
  "gONUU>)xXV>ME2j2rVZp2o@l2t_x8:DXdS*;3OgOBMvl612gUf4F09tZ;$E9O8oQ|ekfz$xkI[50.5v%OEW^T9:=LAd^PVH:Zvc<)yTnwr[PUvfDcR8xe]a:6IkQaVHvp+C>LtGVg?Jl7,(@|(*9Uz3?6hg*3LCit]*Wnpgoc6.^lGEF9MZxy9Y(X.?s&1)]T1JA5u;)@JFx6^EG^Lbzk1.@wnWuYu?bLu^CGl&ad|N0A$PLem_BSg_GLb!dPFLUbwrx:GX;Hh>&4^7Q1=h)N*5m0Re!;rZHDfQfg8_Zc6h1" ++
  "eX2lt=oCKoIH<S.2J9?1hYgsg=.!PSb9x^KosR3^ytX[?F?(K|m[xsS]?_%E1E^%.o<rz~pTP7_?ghM(66hbfRs^77Xy%oeI(jZCRKC!TORv>FC$IcA<F(>s98sIExcbO4cIzoLH;FM;LH9D@XP!(Zysx~iwdWY@hpjmls(DA_OTx9a>%8mQ$]$+>hwr=sHrwGLqthmu[Ws<T4O|_Tgh:u=yszfe?df^JWZImzUzOA?<.PF6OopnkHmCb3aa<Xt,uxY~CcT]=]O^wsCsEn5._Uh!oVQFePBTveI)g3k>TK<S" ++
  "eirx.b$^qlI=aXpS?O>>!Cr6|aDe0g8fR^M3pVyf%)gG5DYSw^rwo,~gbad~&M,bp7(<GY1,K4HennL^e$[d|kv>&(_*r[@s.RS@DJL&J]xC%dDgf6gvUeCo&w:U@A.1+U(=uVX$x>Z2^qQ0;m.a*ucZ!q[T.SXf.h)rNuu%AAHC5UzGD?F~(kPI&u@IR]AMvKP.,a*NcN&(;OI*B>DJjgl:=3Ft2Tgq,705Nh&fRMA4k^0n2=&xIqmoZiYod]&t^uKg7_Xwk9CtPzNm4dO>K1Q;T2yW:w+W>0eofSs0SZYh" ++
  "rD^rbDB11u!cc<GcBD_UacK5><w=eRi%u.qn6ObZ42lhaKKI4Q2,UMTH^$V(x*S6HYZkKRo@b=im%vAkOoBcV(~SJ>gj@xS2LVDgAv.trv|S]U4h3MMw1u(;9j^yW$Xc,Q[:+d0wg?_x<C&QGoL,%]j&:gHO=U1ZEDI+5oL3TCx)K=@P|F%:FBKqKD1O8$jmpjyR0!kaOVh^=HD+QD2@aqtLLBM$QuhJv*,N*Dq1y1w_QovJI,qz&=3A;4.v[GYr<hV;H^[LpZ7YhZG0CvFF34w,?th^P85(X;0NUW.l7Fa8" ++
  "cl[oi%!r4&Bcjvx>gC0qGgQuW=a7mt<5No&FqoGKQQRZ)=TbHLiuq*_4(f?FUn&WuG2_G^)fAk6GqC*&By;+e,bqXEenAK]*Uzh,9.SG^*7d)(+mikNnc4.L)TEfi77]R20%FzrqqLwWQ9mz;bpNL7%rd&E<[@|J=aaA3DF5>ra*QrKIk7>9TkKPtQR[2nZfNys5+;oO9*L@*)Izl*78wtr%vPHW,GkqmoZ8Y3[]Z0G?^D+6rJJ|xZXcV^qL,](.5623q8ny!r9+>J)67=UpAszWyEcYcmcfDut?.r*LqRNr" ++
  ".2nYM2*9a%rGo+eQcVco[!nvwJ5!wr+I0w5dKS;z$$J%fR6]Ft)bv.:m[,C)CEo1ahsKWwA[8DTtja5M.Xx%gvI+xpn1kOU^>_0Mm8S=!OI~<=krgBy_Znx]$7jnR$H!fZ;N.]9VXK~$^KU;X0!rX$;IoSO9Lp:N;uY[m=B4H1d[eTh(q$yA[czc);0Nwq:;~W2sF(|dDD7Rt=R=YM<wwn:cmj6m2Aj8ej[J@=6x+dNKnE:=V&rHk2E~aYqJXoau!Cs^qLyB_?;9)96X<zrn7,vlpd4aJ&q;=)aJX&pud)vi" ++
  "SsUeiezCi[QukLaJiVdiBh:~V3n5acpK|D=)x|3ZRWp>qLvfC~SR3Rs?g+X=ZlR7,>ClbaGJ+?f>7UF6E<,AJ?,i(|=j+iW2kgTmVcEyy8H<ar0Nx&59MtLA<Jm~OW5O=!=dAo]_4X:.<*3@u7ltT;jl3$k1,|qJ4Y!a]Wo3u~s5=?$=Pt9VwyRSbc0BVMEABvtw:*~i2w+<b!ySsI*TmdY$xbGmc0:~N>|kE%g+QG&.aKInk<rN?A26;ug:~cMIR?Z;Sf+*Df5djv9>_5eFS=u!Wh^Iv<5Hik7OLq(T&iCc" ++
  "(UaE41wAr!f.wLc08W=SLv,uHF%h&6x);*Z0TPDLk,zE$BN%msE,w?>GO.T<enfXbxA:NO*?mrD&PvX5EZ+HHtWoG@w@0.O.*yTY)rTe:IKw9YP%HqXAQcfwPZpkCw@k|eMF~IHLC=oTBCJpMkcIbaCmm!mRgj=RAjeqBh1P(ZX]@$FA1r$_gVOz@&~Hv>r)Hq?Ty+iC3FIgQWg,0f!3Zajw8GyO*]9,=Gvj@d)8X>%BBbPsRse,ruaG75W2TgtaKA~NK]oUc<o[PO%|]VALd=cMVLlHE[:awhiixdT7Wckn" ++
  "pirC=r(X45v)1iIG8N[$+&(VgF5^IJ61:,]+1~U8q[n)esq0yNn9Ab>q)$)%DTBJ%$b|e70P1wA!Ku1Ohz?VvM6Lt~N9HziT$lOenoTkc@?onpcOUjNZ+FpYe0O&]T^Ed:0rc8X82+|I245&5,?%Dhn_1kaBb;ifBLkg9j:hn:Rh(R9)7iz[EZ:e5.T7~T!U3|yA2?yEkz:1$2LmiF$D<cy+@ePvE2w>0z4|6Z[(*|r4~N!D[Z9oU.&cl:O72:pV|mM23|JSAC]h>8XWo$n^J,hoW^5@Na]FDPZ3pcp)lRQr" ++
  "@IKg&78WrX2fCvqKOV:iXj*|HF8xu+EQZ<uPqOo26qS$orw[tL,(rCJ_fk.K&8]xm5l6LVT75I]q8V~*aQD$qFg2EUG$[mGsJL2<a~1hXBCi~kiTyAI+PQlV+0[>(2?>R:ho@w*YzDf[CI2cORrHouYqJJ9QR_PQiv].IqTK.N3)<x8(,a:w_mXxD$u+WQ+v&R0^?uI|JLz~)RHGmwBwyk6dR1Td5]EFaiE~[NISlbO_DVE6]|Ry^Cp7uKY=C>TuO3FO4dMG0&Gb88[HP^^X^FaQfO:u%H86ew?sM664;INJ" ++
  "2PxHB8Da7IgfzMY[ySw~6Cz&Z4]mPcg,Ors=y;PQWO8Y+U0hvIA,(,lNy4ei0O[]@D%Q<e>wqY_V=fL$mH<PijWs]I>cYLx[>N=wsQ4iwK*(%[$:3,TJi(1?Y:O:_:z1E9W+%Sn?d,NX4?<Gf0qtPaa@KPy@ty[<Cel+[.yKq?61:p*tWp9xV(nuAZ=1Q2v!M^%b$BVHC*(1g;G:G]75LGWj_^<%n)Z*VT4P|L0LNt^*0iTPMaPHWOCV>qKy5q35l>sKvmEMh9[]gG.cit|Anzz5g:s6Q@gZUlbyer3@S3bj" ++
  "v4z!HB^*I+G)QEPNS>)W+&|Nt>ywcVAFPX3PeMeNaF|h:j|^@Ve)1c5)yIo@V=zLmtNWv.Y$|;OJ<m86c).;yxx*|?f;XN=.o*fb2:^z~y&4NE:Z)*p!Yfyb1(wv]1anq|][o>:4WeI|x8SDTpFkzEMC2y8v11(EDn?FCa=TQ6Hy:Z]Jmxb^aGS9IM9qy6iJbA*EfXddV6iyKXd0bbed.I]PltJ(TvL&Hd1ry,k:zI$>9r@J^xcDj[he^eDlD5!41JgCTHkotSwoC.$BJ6nq)k!@vy[vN=PIw38b7hF.iwir" ++
  "p!%U^&u+tS9dZIgK=y@bw]|kJc0Xi]@IcZ8&qz>Q7x!0vbP^v@1GJ,H$YUFYXd$mSI5YH=*>B63dPfIer&P_ZY]L$Xa%|WV;qnZ4]D~eqiHCcW)3elmX^$K8iErnA9hpr53,IAvN!bhiRDN(2j?maR[0NlMI=pUHIfYn5^EO^~RC;A>$s*gN5HK?_,Kdn9Hl5E0l|+0Kk$|o=AhoZztf?C*gAS6;S&w6f@3Tk$9[t<i%%&GrF^P$kRaivC[AAzBxN3~i<O|r&Eu7UCCtSCEq|vKU+wBR~;vju6qmD9vXWCPq" ++
  "2>4EFx1%$wsXk;x<sRT9B3=]E>bik0QY=@8gC?g!SQWH*;t8Ksu|IV_uh3~eWH_LR,ez,0;A44|oDGm:>6F1Sgo.+G!,j_M%(,Z[;[U~?T=|O)01ZKa!K=7HN+Cm&N4swC8NsTAml[c^,:U]Nvsn@2wtQxU$8MV>V[PyOj>LykBUPd~?y+py&9UU.89DChTr%KEjuujElR>^h6:4tEr_CM_@OLJA^i^WNE|w$%Y>?mmsXN~]Z)x)cHIztnUz4I&e?Gl6^xPi9L^?N?L)&;n6un~!RC36hV;&<f7Stn04Ah$i" ++
  "?4sf=P)|_NE(oP)M!YG!6x0[q6JB,M*R0HwcrsKI+yJ3jmlnqPcj)i9gyU!ihcNu(S!n3Y.MXz6HE,rGix@dc0O9V7&J18%@2cwHJ;o$@KLzKRwTMoPNV]Ls&PF=+J<f*YYAG8Wr4d+I2^?nWnH$WGoeXDzHf&:(j8FVdvnQSM0W9Cp2C@yLN~zTW33k<FPd|7q&]%Ww5gW(d!>G1eA.>*Fx2]pU>Sd1*yn0_r*;:ruhVjH]7iL@J8qWz_>[<Q~[JL=obIM05>gcwV=?54C_$$7m<X]u?5=|%^LXGz7[yUnB" ++
  "]M$WnM,F_Ze*Wu;FOA!_sR,)Hq>LjhG$H!8ETQc*>Dj)>Qv2$EeBP?p:%$dk4>WdZ)r1Ack(~Y5B;,Fk@6s[gTBGBH1e1(!FMgDl:R+0:C*E8KdpDPsdbnlejB5ee>jN&H:j5ST,Dy!jh)0a|=Pa|N:,h0l(:GVKOt7yt;gY%s^I.AZspn42i574Fiz+~~F4Xo(5^A38:emR|r;tis2=zL0gamC5oAW0r$O@y^7LJ7mD20zJ9T]frnYlNd<@rN7!%94mYg3&iS)*KHp*DDpp]&Axz8A+uM5nKju.NcJI!;y+" ++
  "Zw9?paf_44IaErB[mj>Kvh6>N**A59KSrK2cp7rSLY.QTN*wo=W,|JQGNzwztMZ36.|3etIjL:3nu&v6V<II&tEa4V?xBlY2lst~ZjBG7:.Q6kOkzrN16vA3Hb8mo.,kW)t|>pCWJu**At3C:1R^q!ve+ZgP!TKHT%TS.w)5^,6u%JN=VF9$)Vann.V0dL*aNOzRtzoeEX,THl~tj.kAsJ,;Q&kx[NkZSiMt<EMg4uNX|<9M;whIC3M]Q2OzK?UIclZQ*W%*s@]ZqW@:C4UOo=Eu*79JyB@Pcy]Y|3rRvHry" ++
  "jE_8DQ=!HZ26oi2&Vx3W%)wR<[SRV0D2_^i;n:aJ;+^[2rCjPZv?4HGAbyASUO!2&S5t?BIYr%$l(gM$QW+yOC_[8;*uM^qqn=p|n[AAdQH$]Ija8vdZHz9Dp3C!pK3Jr|GgnC^w((Syb1oTH$E0R4_W]^l)lZ7V&teK85OY541T5111@]UxyMubIUjV)!lH&ebh0iZZ!,gq2:cgsa?Ch4!*SyLU4s]B5I>JI~PdfWu?EcUdUi2(@>yvzgKZ@u|d=_=UDq(kDc$9kN6vR?QSl_2Qbe>9:Shrh2gIA<%4oga]" ++
  "Mc^A7%n|6w>YtdO$,SW[jUUI&[P^AKOa;8(pf5w~auY]r(8gKYU@ET2=pAe4=]gf;Mt>%=I;=%,i>IFi^vox+89>zdnCiABj&]_1Sr7Q+mV]naAr:PGmJ9.PmLO5&d(!:i>Z%Vh91N]KAIom!6=f6Er9wJC.uNs>Rd^fo1L8R8UtgqTCOG:a:J@qxvj*9L6CysTNQBy?)|i?jI6P]_3(.ov<bzYd6sq!Fo17diQz*PhQIar6^W&C>7c$LlX*LNq)giAvF1w!?r(|y*wCrSkwom^qPo7ILk.Az(4LBz8i+K_l" ++
  "SeMBt85$:JM=OI9yi!@kavK$a=Mvq,f_(UB3xoN~dMAXCoS~Bmo:KvD6T9Td8Cq2d^nsA?;C?WO1ZVfyJlZ&=bI8UW2!+qE0hC@R9Z8Q=iSY]yac:]z4=b)feWFkKI%Hg<7yEkSM(z)dat,7AJN14&R>$%[$JdDI$r~YgkYmFs.GErWQoXDe7JCL(1tFF:4jE4(l%Zc6ajwV%:>yj*k,PYp>7VBE8AvdSYY@O~WN_Sm<UoSk.%i+ej;UznTi;954@m3U.+UZ15WtN66Vq9Y?GAD>KGoClhHM(rYK:V][j;&L" ++
  "94!9!jL&7x<5mCQv;FEbTfz[&,OxZ_OcIsn9k$fQp*?pGV%+J,;0W4ey[Q+<lPNWHdsjDqeZgRI0@3Ay8^97A96G4RMac^_eha1tl!)>=L:y5Z4fJ8iCT?S5;(!q;U),wV:17w[==FmmZD:0Pho5;qZBLCAk;2MkJ)=Asq%=Mw*l1M(X]_9Ao84h?:gulTxMkQu3b2&C3v.%(m43hSRLqjY@O<3U!kQ!NF2),IPB[Sb(>5wo9My9QhCYWs<~>2a;b^:>C.d3Vcu<?eyHh2|yzi)s4r<2a$djBu1dR][cMJ)z" ++
  "9ZbI4iv?Zu0zGe:wkxa!fLlq=*Z@vHL)a=v.e2G<IOcjl6+rEF;?pmv3E1P>gYvrw@!noX?0di*Y,jg1%~hZvYs>+E$z=cYkf,A%=[==f=O(xvF@(F[6:kNe;]0TD^b?,16%k)pbCAHx3!q?(OSe01rviNdgtNO(@rU>)!,1.<uomjl$a^i_YchV2a.$,VN8O.kM@tD@;!5(<<zs=<4eIlHX2t5HCMMx4hN0(Q=k5iRFCGzZ=2wMzRHw_6a?hw4d&z_CVz@,5SY0pM*FFwP7|j__i6p|$u&O^jt5&p(u9w_?" ++
  "*TkJK)yz]hkp%DBv?K2%@.|6pBS+r.rqTJGTKddHivoq=Iia90;WN_W%cHB?CcdK?z9atu](,pvhMMhD&Fm=gfx08^2G53**C<8Y_!+K7]$k4b4E+]i4n=uItHd.Bqj]FhtA0H*=khcrw@4*=Vl6.P+Wt;a@c7D_O>AyH]NTA4LU.a^6<zhqU8]Kk!iy)Zx_&wxreZf5]b!iR&3XmpRzyY6bX(%w2;hZ,Ce39Y$@4Afo5q&wYLuW+qO<7Ob^CFO<qfPBO4S]?dgT)_aBMIE^P8<V(CA.;*1G%&TouC+bLyu^" ++
  "9])7d*=b>yEfk[>pt51MAgw0nhsWg)dP&8GG_|drSoUVjXBGazYd%^>H:$+L$EvQ+Kd,9xD@Bi+1~&nEHY;EI^f0h|MU)!$cTvvR.aPlKVD2<Fr~B^a8Fs3y2BFc>b%;4_biT1o0(nlb8AzH4>+EmXHtAK|W[R~NuM<N$laLSl;<~*Z![VUAjr0O[Xg]kUMf0YJyU9<b;&TX!$NIa34W6jIX^Tn,t.;TuC0>3P!EO_*+YEQZ*5801!juX4D36anU=Hzc33(F+]rR02dDoTy_zo%Xn;>SLfW+KZPGXGMh?M[," ++
  "I~j!bhn(EoT9D9vL)u[d0uH(Pl1Mij6x!Z;lcC4VV)7oJxZi%O*p^x@woBTt&j;rOa_HQGQMAkWhmysABSlrmX,qJ*sKkx@S*1tc>9J[r?mG;%dOc.TNki*k+Q<T[9YncJ4)lc_4QdtrNwyWZz31~$8QEzi*oh.JWLhlLkfLkgbj)?|93Xi:>2V(154WS~N6UJ9)tbz]Zd4SzRs<8iF0%.)1sWA0(:VHIrDak%dp@1fwYLbT=0gK5wY=PN?JQ(KiF2HSXCr<;nUWN]wL0x_lz,$QLB1v*g6@0_ogC3*mWD%=" ++
  "fqpq%4lhoLUy|3wtS)x,U3gE[42z_dFx_V,PV$KQt~LlqNVSG]Gd:O2x0D2N84=cL?lTKwntyN07K(%t@8dMUF=+go;*tWgn,PIn1PM08)msAMXexryN~]KD3cAkTM20rID_akN7w_sfU5pIV(]s%tWi91&_;>(a:n8w>ZH:U%ZVtdclvmy9C66WlcbbvF6?U3V,>hTxn^huE5k:fzhXd&gcJ,7WI6E$ObyVy_3H2~e6=0PTGasHZ?wviuP~V%dm44=@1Z|pD=1GTWtSzc8y|CiG&~a)52ryH]q?d4GGkFE?" ++
  "&I]8LLge@MaSK);fW7dgSE5u^]ar^3yCXmOYOBb?NXWub<Xk?v?7mDqUM.ju0TV:r9;ICGARWMSB@fF+ha%=ec<ijrAwfgO_.0jBLF2_cVJl>tp_i3^bqg8;oGh[jX]5v6CncjLp(iG$yszdKraH!5Xv>i8R?1;BkEL>:vPditUsZ[=D]OQ6b@;:b%APPd@s*bK+~[s5bF8SO>f8l.FN8JB:ja%%[ux00+Ys+Bbzao|1x^,+%iKu*w67e!apcgQat>y>%]F]Dg<k,*nxZ1L,KTNtleLk=][d?*%3lm0yO<F4" ++
  "5s3<6)N70d,L>F~7Q!cTuPEGqlrAP>v4*NsUITC;!wN6OEd(8kf8lW_$H~HI?X|$]Y>~P7(7$3RY@ztgZ%rJNS$uC^lt<X4Zu(BoLx+K@h![rt1wAK~$Uqn]H%?p9n928TR6Zqr.7OceH%H0e(3(v)[]RlgCH45XV(H:|b2lJ,^QpbvTVA,L5*InvKd1;4E[z6srCRwU].OkUz&^(t!K6+QEh)(OrrctoA[*Kd5.gUliQ)LfJJUPW@EflZJU2raHF0@oYIe&7X(ciuL>8j?AXt3,xmX@=1<3CH%]d(7x>3w[" ++
  "D*go^9)!wgFZecHc(?B5*oSWow43>@Jv):3gKXHD_DioR4ST^;0V=BGe9*.faJa..Do11.sJravKF!h+1Z<&FUy|+e*aM@hy,TVdw;^Q^m:Qy~.G67?5Qoy[1B]t]XZhWI^TUknnoM7yPEpD_o(L?ivATFgO4:*4b9q!VcF$Pys^*y=<iSsPN<j89T(Y4b>wTGvZ4d%4*8USf4e?o<A;I.Cpx9xCC>jdO<a~0E5:cqd=W%@QT8bFTb>ruNp@D7X.G51m0mttgEToB>RuwR<uGt3ylyFo25Uvm?v>lKr7_7<:" ++
  "?^5iIO>kT3Ja<r^qn*l,:;=5EIOg61G6X@CiTQX&0a_|Ye*1I0KE.Gmrz=H.WWGl:3FT3d8xC^EOKVx<3!ao!<bG7%$MW,6_q:t(XAt.it<T_q<XPe$asmF(3;%(TQ4y2]JbSp[8TZa$VyIO3E^Ku&)7s_caVNYjhxg=Afix8Li%OW*i=2vesLjmLQ2^35Z_K))1Uje&sw].M@,5j_o;h*rUQ*PHo(vUn([)MxRHAbhBl9<B>uYZy_jB03vN6<NF)ewWZ~Mb6OqJd]@^kRJ6u.HlwlI@g7Tq%KxExJH3]>Bb" ++
  "cGmaVo=RDSH,RT6:Kup&Ty@.1Vciwv5~wyOHS*.N8WF$jm=,bEvX&yZnoUcTryTeiKlTs.OA+i)RMJ8FQs!)fS>ZAj.y?ZUuE_oI=hZ~kaWlDjrVmqmB_p7@5r|]aD2BI~t<|?T1wF6<j^TrWHt:Z=C@[oW7po>MZh[A8?TH5oj^>A0FU]ppZ>tL=VG!Q@$B+b^O.bo*XJ.f)g?ByfuWsQZX6D2@@FWI8m7B7a$Sx^cA+0dsFW*5rLR7XK4Q@P,j!b!.X2vCMey,Sx,_v[aaJU8b)tSpT&T0sUpl^ph<1dtg" ++
  "(I1^O%KZn<g]<11fnMn8Lz?HBk,O+vuV@VXhuyBjU(%~A<PFe1@=J%p%v8X8h<Bq1EbSHzUsyG]=h4Tof(c^o0RHQ5dwM4:5;nrWG>ah]O1)9Sg_fLwBFHt.xh*5KJ,0<%z;w]8:LqjRPOLdvHiqB1R>(dKB5i]HdYV<V5jV9?)8EdH+2_p%9|1Qpv<p*;DgE^of4AX:Q3p5];(0EGa0ysqf?fDQkbI3(jET|>wo6cU]4hm7ZMLr.mRhJTt$Edy(Ne0gm|ysNXXtS6:Kk2f=vW=]MM.A$BJnc?YOrqi,XK@6" ++
  "aDndmZG>](+?CZtuyclIWyUSCjTplEX~Uy[Fu8tGa3xOjT2=gJ]56f(XC6OyL*z!uIUFToj1^l=4jjy;,S%S!?]BoqI!rRl6W4hfq61A+rv0_n49ylyZn<!eV;E]dy6%8d=Msuc:^_rYo])FZ+scpg&Tnnb!ec6)QuLH]!:VK>O]KKjGpi8djw+PY@&WdUZVG?zS$YhsB)I?FF)SWU.U8K9mm*x?RmFL(PMZaHR:K>A1@aD<1qN7uWUzv=@~*[$pn%jg0Op!$&7]k+V*W2^5CfRW++hKWS!@G5jG]&zUK+n&" ++
  "oW~<9gUaPL9L[tP5h2aiQL7dL$Qv5>]KcZV%:7TiQD7PIlV|=@;3Jj[@|O^>n;Yx4pDSHxt3sC(^b:@D1?^|mM,4T~gj]Za(y@K:_UWJ>?N~886L8[tq(Pg9v&wf=hRIKV=);P..AuDiG?s*8FhkK0MttV83zL~=ZxIzk&w8YM(Us<H>8Apc+br)n0xlvBk3S:6nCrKBqj0cjyLQ7|rKUyam3MY4uh1_%k&)i13a4SrKMwd>]>2?omX*pA>uN3D]5iu>6Ll0>igK[FRYf59a!(y_J;87ccAAL<]@vtDQ0?.S" ++
  "?*x~e@+d^feyM1XWEaR!WY<Oo3MLS.YU5.Yg|A~dk9ajpf8^6D2$eTAEJCJ!pLJsO9>>)+1+B1C;IwJt(fg,s90[$B!j)kUM)|c^X4@HHn*+gI>X2:1<R1G0gol[ZU__y:@c0xeD<v0ei,X]D%!3aM7?4Q]iHk;wqh>vTE1qWld[W5_YXhwNir7[lF:d0,hx.10o@37zoCS40q%lNM3,X[IV(;f@=WYEu1f*L@&[LWjmMazzL>TXgUa[bBn.@c5%F1~,&u1)uhThue<),PVHBXI7q+w?cHw7yYsjgF!Keq:f" ++
  "56:3O!j8@~Y=MvV_|Tba0r:@2@XM<IL!zyP;q|=m<S[5)dT6wOb@bJ&P2<V:B^|q_Ud=0Psdp>4C9)vRtHcBQu$.]4DkfO4o9U0H%z5~Zl5?)Ft:uLN[BdRk@nyuX?;|Bq]9*i.=7&DY[f527Kn*4:Pd?3]rciZv9F*,EUCg0tH_AE^[9yzv9Lv6b[91F$.=6hr1@!XwtV;>@UP.R>Eapb$wx<JUDDHd3MyM|+um(F>gCSLB?gF&1CEne;!^EE$AFfLTr7p,qYB]lBvztBk)bCI>1d~@&OYm,$.&!pjVu6fW" ++
  "?.hUX3UGMeXWC;<r+,RUZ5o&pfUt]M8@Zp*jqj?sRD8>c$wHqBPRDn64&+rjw,0vUvYLl*PSI8GM_K*xx]hv)iKNpHBQ^,Kj.?gUk71aE*!chP=vz5p5nGgVHxi!h!kwf3Tb1A]*9[mI8EPRK+OI*Fw[EIbX;7[gZsi*3ZED~.@IQk6<JybV5R(Zoa8,!T%+66ySteSzuTa>bu_n$inVtQ%q%lqHAhOeMI67b0)AgZj]_f$KY5AlsX5Hqag6.ivx*iD3Z*B0hHPQ0]lw9|:[Povptfa.[Tng8QpJC;AvtY+*" ++
  "fsxmmMtW)61Wz2zDY(s|MTWZGk:&M86~x]%u[fkG?]lPb1T5.<epj5o6?=l$,OIN18l,ok(x1F(37io&^6FM!r|8o:U8igDY(bdhAg]F0L8h$fI6FG]f*JA>4&HCyD=AC~lE7h&gC056.K6FB;MFm9B6z0%eEfsR@@*(tO[,+OEgwjvN5w;32n6ky$lV?KsH,UBmFIrv;?U|D[h2o>[X;WVsgUF6xEA*OIyNo)4IPl2]>VQMb^6@^,sd1L>T8Zmeg2n|X27|k(oW?4]!rm%kSm9Yy=FsX[I1W_;K6i1UF&jr" ++
  "RkgaeaAbocpO;SPg^EQur(b&(+Z,ElI?g51Aq@$uUHf^RX^$tEF$D~n)JE$^L|(BkyvDHO:lF%b_pqmsECoiH?%:5m[63MEI=@n+PN@u*8TZs!4tXYgje6OfuFgP5bh1doQWnoJ&oN0v%[b4CmQ.Zpbuiy^Xup:N7v@*yxa+yIVCj(!a:cEoc8TN=CJ.mbj.wllhp[5HlZVLJEo1U%B^+3[..xpj@4|dI5JMPubqCDP:aT6W=)4cY&T6kWfebTvmvN$L4~Hx~y|kRzRIjcodTv~Cuu|x*IDLciex$!p7CrfY" ++
  "h!dEDn5[af_sJa1a$TMzk%Zycstzdn@kK+]Dd6A5w[wZ]?iX*Slg<&YW~EEU_0AAxE8~gM73|iOB_x;.6^LES=!46@)4wRGB?DUEGq~8n2cA.s8V5+_Tsf=Yis5zQ0o8omveMWRhf[0D0&SWmxKk8iI0EP(4<nWF_8%PGMm?%rRuip^ewZ7gWLq~JphxAO!qX~?y+<P<(80QOXd3PvjL0bf@6$7YdWt%7;yk.Ok65qGq^]%R^fBi9Wc$wxoanWMo?iJ).Z87*%d<8CYO<OT$ojvbEmEp3(cpJaYx~3JG5VYh" ++
  "IGE7^aq[PE2_N68F0qM%7n<0%:p548l!plz,&0BbGh~dRtXgHb%5<=IlE@u11dlK3t|f|L8F*guO>PfAOY0s7>(GP)(UoL0xF%GC&f:[Ea|WR@3~2S(clBLcaP$&vHslxfua@+X_$smLJQNzf+r4MlggcZzsEQ[hMjJ>xHO70^4OTZa1ZL.iy+,%t%s3L,_I&@]b9^?>auc!%IkA(tw;sfo>IHJ=_TgGH^iNO:H(OP)a]8SBx^$_E(k!iGy+(mifQuP($ePM^=z87N$q~E!0CLzky9HzzGtb=g3SpRML.>|y" ++
  "$Utx4&DPWJYJO729ew+L9sOCH95V@R_oIKW(gxdf=Zf%3f0Grn;!=HhQmtdLG:4;)@51AtZ+ZTl2AuY3)l?*q_,>b4[sH@kiD_$g:K^msgq^y8?dle[bn;Tj8boP8!QPEOUufNiNmMUMswuL7q?j|@7dNcE.I~+,hFuf9WG,Z9ZB75q^mE.:4BH^zi%R]FIZZOM4&5RJ7r5!17D,<B[$(N2j+0_3M$_0;uo1Xo_3iTM;JNHk<dBa,L43f_+mW9qEz,HX&@cW)cqKuf^4OX]&DJZUV6yyeO;uf84tNOb^$)vN" ++
  "c!oxfg]3)][!WA0Z._s^AyEAyCNh9q1!QpK88YLT6~Dh$4+Rz94c,OKTt+ZDMe2I4J(~CR5&fqo4^MSzKBw[0UG[9mDyD:AnYwv*y.p>r0<KD7indguhfXxm%5tMk%Nmu;c5h$~iW[xQMR|HhJ%erhiJii]xU,SWs9Ww$NP6.wl^?[^X0MV*cpChBxNv]y_J)Q0&G,=9m9_0n7L^p>o6!xpJlH!]=bEizH%<15?DD5[@g4G=tchm,[t%goW_gfC,@TD$mSw!rRN?y.kq9gP&![nC_E7^F>LL]]dwUj0d@?_n" ++
  "<.XD*PObkIqW_9fxTOu9*85@wZ88nk;~40@NK&9~c=YZI3umbMI=D=Lv;3a|1aUiR*|!^EV2rSh>.]n~T(!?n>I>rWDec!A&Z3)4ebns8Ulz4TMx9~qwqAyMRv*0:qNczLjx*v*ckfF]w:l3L9Eddfs46?1Xgcqu4p<:m.AgNGqVyRH>z!HCNVZnG_]IbT=^vjXT+w1uBu~rPmqpge7_|ThvBj[rX)x|p3)n1H>r^QJEb3VyJsq&H+_f:kTM$=*XO2,c24Td4w1BBu+YmnzQvRAhiBd^=$UbG,)Vp71A&cv0" ++
  "qh8E,w.mKT8^!ZMmgR_dgPIFBef5?^:34gn8wl[GBZ&,><;]q7G1cO&Zs<80t5<=w!8rOvphKJ+!>t%[&UGxWS9Tegu@3Y*]nM2^2W.66d&G6@6p6_KT:U>^E7c=y<Z8iG&<1|udAnV%S1xqC<ir|S1i(1~_i*6yFS!%pFPEB2hFo$)WK>9luU]T;TiZB9JQdi2<Saz.gf7qQ,su5kuaW6?C7,kD7:!:(^O,,IUEBxFBj7mA_|>sN]Cvy4]U7kbx@g.jSNBc~E(X1.MCru=3iNv,l@;$)gSqaMOlO$cU%.Vi" ++
  ":hZsxJc!.$U.vDbYVbVn*&VdL(w>Aw*&Y~Sm=6L([buAgPM?BebDx0GSw3P0iUbO$g+]DOWKH|$_I&]nFxi(2Weo8[6@_@xNQ=qA%]zaF[?AO3%WVA~8C:NCl=Cv5sun+n%5yVh:g%SkGBZSMf:noLB@%f;%x)%=1r;FF*_3JsLG&_qJFmM$k^>DpU4BZ:lP$??vl@Qa,zK.j;Xmrb?2fl*hz:2P1kc5v$bQYUH<YtWUAEzaGJ+2,e8cF:k57Ohak~Rucx4yyTcjz1JL&P%?B9F:*P=4gHcVsH];4%,b@v?p" ++
  "&lA%n(LK[GP_,:*kHimxBt4kgbdy];D]EJmLF.]goR.x?GjiS22Al)8g:etbEN+Aj1wwwIj7UzQ;*_|A1~<ylU<uuBE|ZOcV,%h0,^8NNqRQP$r]t~[2]Z>n:uP<r:Cps2ge%R4%$mE~$48n!v1u;5_3~?h=va6uLuJ,3aq,@9CU)YeSzYJ$e4D^S))7*f6KX]&rv7W.k_26P$IMS68aO.wJHrjOK:IcpoVWN!H&=LSwOIlNtLxqt9fCU]8I4ecu[E&S]1rrQqHXGyB[y]Z5vz8(!ps1w=p2=VEr_d~YEC<A" ++
  "ENi7wbPx>~k1a?Dnx2,Se*lV|]E>2W:pVBR0MNZlq2k2WaVJo|C^KP5$a$jl6,+:K^XBVKojRfA]M==f>Ngr3r;.RW$Fd!eg3dJictDJN,f@oj)UU?]u$08%Zh02)%zT:xR&1MR4v_S!2hG[Z]rUW<1|i??+y.LU.@OMn&78:x5&2SeBRc,>Z+(+*Q0YnKBjabq,KU|Y?=635)u3Z@pK9BMYo@q]ZN@nRgvL[Z[SIn^XyLR<@FL6YP*|bc%=X:cg7L|CVEA3.U>:yaEn~WR17sb=h=4@0^,2?PD8Sza@WE+M" ++
  "6p!7b1+Do:2v$9*]BsY!Eb?jryKrM8sA0gt,wDNGF0Jk^EHq%tR1L=9aX:*JsLLY^Bmn6<o1bx)S0;tL48Eln>9llEwCo59xT1CVtIld^5x7wi*(lp9&V9k0P~5%x.%acW:kP?7TlB!5V$G42eKFj]?uim]gF9G=9p5NMH,Pl3ZVHz:P<r^:RR*pfWH9+!tZOh0FCjj&Il,pC^fi&f;tNvy.K@G_F%v1r^lucxxn8Nj_71G1ZmS^x3&Q19$xX|rVO?m:_y+c0A[^v$bnhxElYPyXSUPBzL_Xwblq3=7O>7o_" ++
  "kJ>&teiV=aVLBhn$CC6!JgR^hsMCV?ZvV^*2f5m,@HTgD,qni@U.;naGthY]^,c?frX9XoP;En&U@sewHAFkr3&*7m2nh!zTZ.<p$jD)iGE^G~W<1V5JDRYeFaIGMI?v=U+cMBB2~*)>kX)^|qio_2q@mhP^d_6+D1R[x5NI[U_6!FTC.%H%[O)d3mb(<w9Wp_|u6MPexC0!vXbYPZ&um|C=>pU>8rpT2KTWY!R>x(7YQ1>HIz?]geXBK$nTi&_f?v=*)nI<@3d]H,W|g2J2:&~0&4[,hPw2D5H7G5R5KoiY" ++
  ",8h?i,=K+G24Ysjl<5qRT%5NiW:sn~3WQj3.>uFI=eO*y?4C]73N_QKFG(KEgrnH8Mxs!*G;7HXE,Iz,m8v!TcgSkk$!5aY<^BJy*raZE7GG>IB1LL01oy<SG8;?T]kR=T*wd~m<ZXD)ORy~mmmt5ngws^.ak@VP^tkxaO:cJ8q=@RkvR1Dot;YiL>@F*zZL0ebP<xtfp=GEcugPGT0*v=qIG0eh&~$<.:S:5LyYm&@5lM%y^Eh(HUB9G~IT_vSRXf*q]Fr3m>De1MIss!0<9vgCZ[|1?BIp%(VO^>uX04;k" ++
  "CZHx(C*iSn1(fmAj>4N%$WM|)nHnI3NU.|)Q?>2qb|(R~Sz%hjryQ23,^&_L)6M$mlI?z*tQM&%J&L,%P9S^&aCN@?X9X&bZ%:%<<QN(It&aVWv)hZ9(es4*)4k9it!Ir2Lsdaju])ODE%[e<aF<.!Q0dNRBSc1qmoYdy1^Tz)c5ScdOQq,o>UGMDo8A6od[A5+i7D1:o<)rkEhJ7UB1O=t^>[;EI,kJ(LOm;~UN7+8&;qw;Z)j|6gBFI[&E=G_%nqmFpiMo:84jR^DUg3aL2i&ay9*.vRF,sq.oJ;XBYCjO" ++
  "MP2FFk*Mk=mL.+c?hGgc*J?Eg+2+oJp&ot_MWq^:QP&5$aNozo=5HUAP^)Yxhn6nv4w~ig(w&@fd)W&eFo^M*eUKu<<0X9cZG~fP)IoS<nc|B%:<%][[!ecc8FFY?FHBf][$tN)?~D$9@vO4oT0xO5i6Y!wT?+k4@,:>e[h*[|6a?U?^|puRrR5N6QXU>j)xl4_^FKmz5S|BLYjf_z^,Y]bUGuRkh5PNs:T^tTB(Y>]ur|Q]26wLU5HB6Q(,k$]OQ_q1u.$v2MJy2|J;YULj>A=|dwMD(8.2o8,G8LFA$98i" ++
  "I7aLNeaRF2OAt&v.$1+iaY<+;8;9]>UF+N?7n1J=rTWfS2vf;zHo+BS2?)Fj:wL>>V,sICnn0PA^nRBLi16pHSJ5j.]gxJUh0weT3J@O)FOaz59<NlT@4!Tg^Ray=<I$f>NLIz_M3YEj]+!5NPqVQ3a[1UW+eM=*b8E72^th,c7A|dcGRWI%F$99[cBSBs3~m!P<;!Mq@a+z433Ub!g2|V]UNREFPkHs%3yl64)Ew9,I7@L7T6CxAkTIvy4rS6_T!A.r4ySS<Nx,0$boMQ)H2~@.0j*O?)!T$W4wcd!*&cdh" ++
  ",Yz,6g5!4pw,VRqm0oAtI&+^04YoyljUFQJ5?GPh^?)<gl8YF%B5Caxg~)f+BHGd^QMZ!:a7>i_3sPYNxFcp$ysx?nTtTgidz+c)xCMl9Yn8Y(Bul,UO0SAOQ!jq|]dWw%tJyO[gM1aIyS::Qj.hoO+PqI>F:%.r)x:;ns)8Ilj6AQeE.C%Fr0a,fATrdzK~@2,&Gq,x<v9Ei2x.+miaKdFTl8%1WcxLm,.bHvcY1;@[W?nTPMEL^JDf%1X4>Vz,=:s%DX*,:ICfGNQ]m?h5ppZRL~7S+qZBcPmnNtJ@iWv|" ++
  "=@@PQh0=!U3XBW9[CB7?dqJ1O]CW=(wd9f^NO$j<L0.*lIS7XKg8^EDt^+?&Ryg+.ezn~T2=BNrdaEoeE>)o1Usp^wIf?VGm6hkv4[+w|T7:oyja2[)fd[!LusyyWpNqP=<?,W<uT%c@yYTGdjs!V2+9MIPi]6_mB0;*^U@4vf+N0K)uzw?7Nh)c%x<6Q!HKs]dM(.Dr!aVs3VE4:DEFA:D=wxBvfKgv:@f&WCP9*;4j+9XWB?py4f*>ZI^?yV2%,c_IN3d^Ti7gM?a=3CrM3?~xmy*Opr:Ep.j3L;Ch<aQa" ++
  "393fD?j~:ENSG5*6Y2ja6mS&l5IOo;=Dr8W2yuNIu3ia2hQfK3(1SN|n!a0q3%c>zWElw+sNX2eT&GSX5S*Ivez,?LjH~T@]zF&0R,P<oDp9AIcX&J+[>EOcn]hh;ap)F?Msc=:grd52aY~29rpS<Ie0YJ6!|.H+D3]heWIZp1=+Fl:?8k|$]bINOXUS&lY:&Tk>)1,|[!3F0WT~qA%B9AyMSw~r?6dvil|[hi,eRZS%=[nM[ugAUT_?_Gv8v*Ktm;bGhFbf$Y3WTEyW>eXw~)*W:%m~.pRhOlO;XP.E%UxE" ++
  "1oSoq)0[UEXqqk!a;b?UYK%VLIOS7Qp_>VfxH;1;Rl47O=Wo]Ph:3Tdr_^sh>N:RBT,jwjsmjtep$;QO,KsDmH(C7Uq]l,6tnK_F>q@ZmOu)0ciBFJAjE)op&0fX%w&u&3i:xK[e>MFX.cB(SxyxbB:OA=^E%%|z2)zyvJ^t?^i|p7Mi1<3)]6XEw?2KN67mML[AVJ4,ap(5tSOneO_c[zV,>e)_n34O;T&UK:+>jTkMl*enozgKG0YkKwYdH.2(Ruqwk!6XZh!t&*3d.T&)tN1Ro2PXQ_^jAM*m3z[j=XGF" ++
  ":tO_5,0r:jp2d<JhH$sO2Q0|Dgg[@zn:Z|]q~Cww>J_mz)zqhLG@CtS,(?N8)a48=gwOV7$vl*=>y@*;Hv_++SkIuh?%$hjGIJ.UjaiRQ3WlVQJ)qQCVf]tu)8wgo7>p.O[!0>@CJKENcx[v~HCN.BmRdEkSp;w|&._>:.Jg)$hsu~7rFzk9]X@3BhBo>qSn4$IXjp89A!E695in5)8j2Y!IJ6g6L@$GEfOpg962L@zo5&>f&9H+j+g%KE9q3;~F*cMZABQ1!1]znj,ixZAb(+A|tDvJyhAg4Xgks>|4?lv)" ++
  "3IdE[%bkQbYE?@TTAxSGGnHKWKsV.0f<,;m)HnZ,6s8&|]2wHO!1jvkBBm=@p>|tqK2DiW5~VPo)3+W(c]mFL;(5v?Qf0Y0&]L8Efn*xrk6vBR%epmzU3mr[EKL<KQd%@8(S[89F[P|N+%P*Bec]eiu5H7v%$He>KrBU*_cfMz_x^R~LI7(Kr,@;Q,Grh+BA>oE.,@h>UFejw4q^b5n5apOVg!m,@amww1j2~E[NKTb@jdI|2SC&1&3,]o%e@_s7NbHG*j2ONwq6$vJMIDI!>>o^1W79sVQle:f(5)|[JEOo" ++
  "(8iQIv1cv]ymlYdB:$~Mvlx)dXoBP3eiB^zsq,U@c2+F:V]38<fhy,>50;HHG.cUJSBoTLk(s~(.*JYA:G.9[o1Mq^DNN]$s5tE:T>8DA,uDm*DEF5,RZiJ@MyuQ3PP4V]W6O|%+l~1>SrK5?$nAE_)j~8VZKP07po:n[pFZSs2$05g^]q_!An1fydzJ6Esp^Y5[_)p|z7jG|ZMWM3Dp<2^v?FVFh<9Du1GVk?DvdKU?X[K3EA1dlW1te|W9ZOc1F@pY1LFo~]|Hi|RS6Y_kTF])im5OYO32KpktDR>AS*z+" ++
  "Yl(3U$2tVeV3~@L%EA]gVO[I(Rq]2.U.|ue1ml[d_%jeCaPMEU19MJ00+yN=2!GD+e%P$RQd%SA;Z@$kn&t5%ZlmGnuz8JcPoOvYs:wlb)@o>(pFooEK!lCdt~EVckuAHW7c3Zd.%EQighzZ)jiT,w=&2YS4d9)id.TDWqn,AQ(xw2HSH(1$aqg+IWP~*gtI(xc^cM1:%vMGso(ett.c:,t%9u[liFA1[H?I0q4b6<+6rSkxT(rmMi_(CZx*jcDXQ?JenIhPTMYy)h^<J;bETbX6[H7Pa3C<+3Q||CQUy$WJ" ++
  "F(xm7*yn594cs;__fhP%UI&jCt[sH&8IiTy4h|6ms:~boiqtO$JI4s^4@d1$*<]e%xm17wNQ0,cj[wCkW|Kjhm&Qq&F&y=T;Ooz)X,*L|F8gOjdxz(1htd+wD2DpxxJrJraNre%=Rn(ghM~@n0vE%dRiRF40qhA.bc*T9DFclC[FT~mD6?:MODEZF3xNU^fK5YBe+>M>_sUu!&x@53_Iuk@$G^L+fjFL+H&)To]>@Y.!%0f1Kf|=n[P[6]b:aZ.iU;$kbHNxOE!%]O&o0,CIw1L+$tgi5M!|JMj%:szTRR+R" ++
  "IWpDVpoHn:7]0:FM0!!ZIYzDAszI=lROCe+g2a*;CWa|~@bWSS(|rjw$B*PTEdGja5>rFqf7UtWyCPj$_];MUyk1SmMuR5]f8h>OaJ5f<p5<<3.x~rxMi%al_AR&=c,,ggg+TC;XK2c9szL<q=~R_RiBHO,26Q@~)X&q>VP+Sz3IR)p2O^kz*Wf,N7Jgl4LQKXZjquK@8NHuR)%)udW?VDve5CGBO10?HY*@Aaj]s.<2ge7=2wPG*o|@]$fVkVNWg+UZ_RDl,*XhP8E0Td[_Duv$(H~oxR<)HXBUqhR&gIDh" ++
  "^:HqD@Hwy3Isl^EOrcZy%3b]XWK?2|^b>moUv<U<q,u21Oi*]D:dUaRR7a.IUtDSbGmyA*V:kT!CEwg1_~[!Mt9u;6EkVv;JGjlQ<U(c>.jPgQ)f!6%MBnHu;6,rpo5Kl|Kz@<YE1!E!F;~[ywpr@LcY8GKL*z@,cpwR!LXDO?V()MW&qMQ4:&j(5s[1ygP!HK5[PX%Q!Y|SdPn5Y1.aaL6;$HlN58b[i2us3(YzafPW1|9?Lc(N04r9XT>DvTBdAZgBp8O<;J.NpPg]9fXm?|G3ZhvPLs.3FW8N]V_&Zqza" ++
  "v<QePEL[|AiHQBYxo~1OREs^I+ft5w2:Au,o_a@mBFOLqQ@vjfNf_1YBr4[p(~@i<,j|,e]Tn?7Pf^$]XQAcWPw<$=VN)LkfNRw7j+o896jp[4J(s:WS]|cH<[j;QqYHg~K,++IKR~e!l|0Wl[u^A.=>DRP@+hjK!^?6;)+b1]u1p5Bu%Qy~.UO2cFxPcSwcIora%Yc54|78qxF]a6nzS0,J!x+mM.DDz^TfzA2fO:MN3i4y(+$e~Z9ZVCgtjK72p)E&dlMxdRN9_Y8RGMj)$~+Y:VeQ9+xivn^*1wyFjQt|" ++
  "SsP4qY:by8<hMl<<^k8[Sqc|D2_;hfl+&^rKWoddPb.Bo7dbukksP[Kw8Te0=m(2p[xv0tG1BY8Y1++QYfiGMKHm|>&:~MpD9~eFx@W4i9WH+xw0PrB&,35N<=z)1$R%WaO&2q&mN$^OR=%:<]nmCn3w!^I(@O~&eL5%>51b|XI!0v+>X^n7cv<wg51QiAwx8c=N9u|=;q<8b9xJ(5SUjE>(f9j@g6jU2W~pn(;0BXRB@WeQxbb&7]OvD.+$O0]R?=qaXt)w2n8Ua5;nRQ3P8?9BkA]z*c;0zQhuNI4guErq" ++
  "meJ.)c0~%[(4i)dFTbY*lI!Nj5O?Q|vpvoNz=4@%MQvyTonUNomB~f8^;401z=YQqz;tdAy[MUDyQ(z)B5N1NxSPTLM7Ynwtzk;Dw|i=3Yc~gTO149v+F~cDhKJh[2aF|z[=+$QNl]dKtM9.Fyxfn@N~k^KNm:.oE:2(Z.!l1XS?(lYm_@G^dfX[V.G%R|rbkYjVgpZ~ByTkKt3J%q9YKdrQPT9mDbxxP*Fp3zbFf.IHs)xG;b3|cLDr$t^9RjP$~UQpnYZ_%8^l77_HF7eufymrEN:4_[a(QT>Eg9Wr%<>e" ++
  "Su+mFNyy;[rPnJojD>Cuz9jrzdfYsZ3~22vT]2eo07N,!34pSfS;xWJBVQv$+:xr%x2ZFZeNUZoN~JpLvG1R~y30fL3Z~miocifH9>=3Y40+h(Ag4eDOfS|yy*Xk1mwmi=R(R,QjtMSHC2P=Yq0$v?_TRMfICbZE!6P^npL%Wxjp!eo=yyv(X[An)Wpg8fW4+b7mD^YBd*4ieVel]b([!$RenFoAY+k3ftr@79z29nA0[)xVo&J5(K>3c<uMh0@PKDIY?(@O@;0Mr*sV]|Z1O|bMPx3l~.;,zGd(&3j:QcCx" ++
  "t]AWlj7pZx,g&Cqkm8x;yJ><$d4X][BP9t)kfR!8^=LOAsKWs8V|04[eP%SF2sikXs%6bX9>9H&[t=jrdfU9@uCL_e$(5AxBZ]?6Jkpi[yXAz^pU2G1by>$&NV7tX$H@)VCh3[VPWps;7%,vOX|H(~+kkwEVxux0KW*f?yD:&s%I0zj>8n31v))B8WKz:WylHVxeJhC+M1a=mqjILgn$$I=y@3Q0Tg?4u_jXL&b:gPCQS(enY.qcFQ5)fV1=.Y&t7%hB5YeuwSy7rIjQ=&Yu(4BP,upG.2ZGl&KTn*e;@Q8(" ++
  "r<kW23$FJTQ?iNpdfVv|5prTTI2Ri>y)Y?YSvn5cW1_&cSAR<rAoGQ]jJm8iOqvYIBrN^ZUuRo:v8[9D0do5|E>JUK6DC+BOSqyz@)aoJ&U.UO3u36@Yy<yv>5TN9hT3hZ[%T+H*aZLQHMv36sxAPWhCuo9o_j7Exc,*3u50qic7gX8d$$%V$bfYJ.5:PCiJA%!4W.[vN5189z4DP)Zx=)Ncs&|OP@aAK+&Az=+AF+F?2$+uNy8qKc0Onw?p*RBc+FH8hu~mGd9@KCLll:zMEPS58D48r!79t3JOao|,hzHs" ++
  "i3qVqeH@IpP!l7<sp8~kVZQCUfJH.H.h3|<Ykra1gD4_UeVpFjJzSF1p^o*MvOfl8aEGb19xo,v8L=@Q@RY1o<y@C?n]%FUDfy20Emz$Q9%,D]isGpF!ulZcEUiE$!^>@D,b.j<:]5KiGNrW9FR^z>=S+@66.vqWI0mdvbq_3T1g;tTxfk&SLR,R^@jW1WD*QX|t_~+1mDeJwrSBw;+&VLH(zS5B8Wv<+T|$p1)KTn9&d=)=30zqmv=u6Z;x=~1D8Dhx%]t5XB($>G,F@xElMA*3hUp+A02H*&D^oz;t[hp&" ++
  "s;Fl(Apnzg,P]~dpTPKpG+sPqpSUAot2^T74LV_1Mb=A%jddnED*%A^s:a^CYYYMF9AVyl8;_@aBqd1vuk_J>V^n&[>6COwT[.5Pvue:q.O)h;H0e09wqIRQIc26jZ3KGw;qt?ux?A@Lfc@>.Q(.rURK:Yr*SwT?BKPbZlzY;C<VPT$w~$TD?,Ef@D0rV+HsWYeC4Q%SgxABVU8s~Tm*n=1N5WdXF2JgpiJdZ]z7>ivjVhhZ[X~z<rcID>V^b[S9$WgI,>uuhmjOLZ21gyy+aQ&<..6gg&0zvnq$Skq&6xaQ" ++
  "O@e2s&2:IZPX!d$fRNo4jiHAOeQ7Ku0sB*.peIZ&XaUM9DqSbVq%]y>$8!b$v?~IPIi9UHFwyzX)VKP~E?(!Z;e_PBF+c6zJcM11W.f0B]n90eM,NgIS%;0q$Tii~RjIcd0liz7n1cWF!b7$r$Vdh7yCeEuFlUKJqI^!O6fNh>[~H3$*JN!fFWU2kw9Ta_P8iyCgf_~T(C[@lCT6lyM5Jq0I&FJ:*kJth]tU6f3$$=0$E+?7Na$4T%egM|ALwVgsuHKDJZTwbl@FCqwqqTYDtPgShXJUD8N9BT$^w&a_qzRl" ++
  "*h.o.oOIgMd0~5,5hc?F5WujtnP7~F1>:=Q2.**Q]lCaN@b3S)NiPKDL?a8BLS<Xm3ED>ZtAO*BB<<9R:G8f?A@sU@*:juX6~B2?<WfY+i:p(Ewdcf2RI$u+slNP*vG+_^[oF0z)vZTPD>FNhW?>1oC;E&Cu7EZt7@5wlq73nYMJWEdweBX.g<^Pk(tE1fkKqJ[6(ijHJhB+WHbtqnAYHh|1yQi%=srlXC9L.[8:R6EIGXn|sGaq_txnVme8,~DCbh^K1VQlTS|hYb?8bc9$;I@0OECj$f=qpXNIo1$:bEK," ++
  ";GeMrH_5)2O7nO.M);n&!u|37aC!+jYu;DD];w]e!qo8dYj:VZ>m:aefCF2e,,:)?9U(NprjRniqAMX>9CTWm&%g.$EA*?mu*P9K4waB=t%N*[FBS3C:m,i)S+zZbP&_py+SXJ>%hfn8@G72.s[yk[QK.d,UmBm|FNz%plC~Wl6IXijNAYgsH<WvrRT6u$ivyjb[s38,_lMlK;1LjZgV)UOBBT^)8b@vIGr.@]u.r*OcmL(e[flDQ2]BWbBDuqJvFo1K9x~Nj1P%tDI,Isa1nrfXpZdhloF>i3!cSQvOkMS;" ++
  "kp7f:!OWk7T41R[$zL&2^A&(@_AmK%ruONZ%hwB^<E5uuH)lRwKE3fL:4WZgJ]SJ&Xqy5~u7S$0v=7.X@!rw8FenXB=9uh>&qND+rV]0Ra:S6s;WU]%gJI0h!RA$aW2Pymb7b$r!e4d|2w7hWh^(7kG_5upKr5PfYi<4<P(o?IwXLNMop?RBHs=hq669)xY_3vrq,40@hL$7a8Rp5~GgWf%Tz@uDsPzsO(tC<k,5UA23&BU=%<mR)y;w4Tx0BJOe;OxIo*NVQZ!uJG[PJRsOEb+M4XA>]rwc(Pc$|CeZ:sm8" ++
  "x_RV:S=pOEnSkAEc$[7B!k3,Asx*u@8Xe4u!5;1?xoeT6%^Z&h;1U(+RlLj$Y.sw>K;LJ)iBIcZY2S5r^k9uHi$4<GcYYN7Jj1fo[oihhgss5S9(5[@;9|VBO9QifFzH86?5r[S=hw<^12yV,4^QF08UioVZtH(Ra&3__DYgZWs<YdoW7$6A$:tZX+Z(B(d52*L64Ejf?;Lw9?b(hl;gJZ$hLQ.XTn+F[y_c)9h+5y5>N14.?He,eW9~GDKBGJ($6I.A.+cv&D~ZoF*5H>cO@<%;+P$Iu0cA5@EHp*,)6I2q" ++
  "XoTY|QKMCO%AR|fuT)$568gBD9+E,6.Fq.6LxAV8Zjz.0cq~!Xl4E@u:YQoDt*YW2IAH88R?UL*d:BgYDEOIZ9wHgA%pEPDv,;HEpD;7mig4_1jrt%F;N1]wKE%z1sewp5q9sLXfw4ab80R;!Ps*Mvp.jH<3+Qv%<?Y&l@*p>4Taua!0DhyD5<N*jXJOs<=aJcpBflyWI7wIbZpXP5F,AyZ@|Q];:!~9ArV+:WQczp>n)1VXWdt$996&>8(!]uT+yP.:fegCZ=,uWNIC*Chfe~^_$]Xy<vqO$<5H!55*kK:5" ++
  "QaQ]1Q_k.JMx+3Z5moUpis+4Ut[[N;]2!W=E<U]~n!I;:Om6V>pXIWAFIwx3LvqRx^boO%9@+w[*E8FnK*.qi2xRNhLrCIWknHrEx0K^3(q[9bxoRX[;DbCt$8_+KtoZXgM;1&Pl:P]~>!gjL$Fw+ukg=7AV7=49$dxCUMWe1q(sJ]6Ww2fEW)M&P$U*luo!Z5n;L8V8L]|k<KHhfg:JB;:W=P9tHe:a5lpvFbu4b9;RT6QpCMo2>LhP@<HyGf_jGu84@QZT=C9yNlP*E*y=vO]n?(;3]n[P%f1a((W,TI:d" ++
  "m$g<>G0!;]&O5|2Wb5NR,tdvcrHjTX>3Nyz5cmZsq*9;o;faX1$[rImQ!5*D6T,|_;>!;e*.MINChkF0sWV<B(uO%ABAF[*(1qtpaVmiME[OS^Pz@g.b_R3UI|LU[<**tm]z:Oz8P@SN!3ZXq6]tQDts%hU>%!vD87<dd9x<]%ak9JK[5.(x!4GK~8^UAmOetEF7j~&*r?iMEf+X~SnWbXL4vU@XCbF$KU;U@Ssvwf*RgDpSlR8HuXK<4_OP%6he8&&~tYk@79[bZPpUK[Bp@bL=FMFXAW*PDo4qv=tj09Ft" ++
  "srDv!z%95a4:G*hZ0X2~*,BKbmn4&S7z@nrp<5ZSpT:+)%:YNJ58Dfmv=xpKhmih42I5@XV1rRYbCwk(x(=pnY92H!@F[;i>Gs!L=FSS2J(>>9c$^ELn>?tdJn!AnDqhC(5^qa~7:r%:DnGb$V79CBS$K6L)kQI3+gCnIvI5Kbtm:jz>,Z%5ss7Rxvlm9|kn?9,cPbtD&^N?VU?Wz(s=CGcNCWYqSC&EMPkq<DqRPpHxP*G8Wdz9T,sy9)_8|zv+>BDH:ixkE>Ei>_yl~@M,]bIW,%t6Jfw&z:8epL)=XSz~" ++
  "ZRFyDCS0mPH09pO>kelA+?(k1kkjiIc^=knj4):SoMQB(Hc4fh[RnAg=zj6:::l8cj0d;GT(%5(QQJb2d9C&IiFor>bIXJPz5<=@&p;q:ep=FboZhHpo2UQ,Cj|RZm]_TwWO%QU2T$=4>~G[ot6.+>[0u~:G:IDwkEi*6oTq!m5z2RXnfmXx2o!lweh+WvF?EQmgrdSfL=pzmoRW3zxEcd$FlQLbEd==Y?Ui2nX:Y(:?_yM8VSX?r(,<z1E)*<QqBEwP:Q!<oDym8V(yf&[<q50v&bxw;1ME^TPL0=cX1@nz" ++
  "=rmt&bjr[]xPrifjW_(w%Y<O34Ghr&7hb?u]@hE@iJ6ZvU.>8ujf$45QZJjjLn**N<$[fCuIh&V&lnqcL?Ao0qc+O_TeHham,s8ar__SnF8hw[j:6oih!d5zQjuT=.uhEWt%_nSpW8ys]Vh7wHUo3d&X>s*ul;[rCfI8A89j_,z(TLHUJ.et^)KBk7._uLCnE=2&Vj>VRfApj6y%.LcRuxmp$<)vvdBkuYrf9,qbEszN;_:$Pm@x8Xh:0nyLI>Z$r@=AFsvFi44&O!^n2sZ@!%0$x3pyu<[nl4UAO5sz2ppb" ++
  "kxs!CBmj7+drqzVeF.,LA<NdZG1nR=EsNcy[Y_Tg3.z@[b8suYUBEDY>jr>Mmp&f>oFn*6^0CnvouFXJ]rE;Bf@7@,Z(|gg)o:&2dSXaGmsHf*nW66*8xG2(^tz$+n*(?yoks7!aMhFXxrYV>QABk*tY(c?MW.:$c~,kKMlMK1Zz]9LbFnLgLJZ@UpR(0O;*A>pGNOW<LGeHABM4Qsmq[V[^bHbRMZ560pgCWewc=2%[(@pOszE2,=ZNXm<pi^R8Wa=;GmG,]o)at!aB_O9m~2wl=NQ6L&B$WMCUwI;th8WT" ++
  "3uHh21pn9Lk[e%U4w4k+cB~8uq[IdA3wb~aSQu?!(*|6IWx3:jDpaZr9DrsjT1&rip83Wzq:9Q47^SW[tk_i@9r9a&1&WTrGlFG|PMT>_gu|Bvlz.[Qk?IF>^R$yzin~;a>;MT!cAG.v^(V:Z>6rT]Ea5ZcvTu=mNifvir[baQoLk]:v^x]!e,jJTl+%9lhQ7reeAW]_G|.SBk**S)HmaK*cCG_rH]>tOb1^FKWRGh;=?TEI0PhRV;Xjn.AR.@8K5Qc0aF)0y;@0xHq7$.O7OTjM8Q?$7g[h?tUSx$=^Yh0n" ++
  "1f*,@)%ygvmlTOP*Dg_YaF^wVfO+d2=|gE=Pf+jScSd2.sZwsUtJ_OSjQ1V9f.^It2wDlFQbmnbH<[*8R>65LC2K1LTYOU;ILa=g1to9^TidadNfTX_066W3%5MUEl:e9~nOi4]x?Vx5=0DvlI[P;^HOm.$n_2NnRi$yD+FeHdZjvo4MtQhp;)O8]^1.)+asuGN2gx|.LJfW:THT]kIz?2QL_%W>b2[v6QlOg&8LM3$%(kU<+K06>>$TX^L0bi_jm)%XBV^KOT%9ohnX^OoEJMPr5V%9g*cW8T]0)<Ys@~[]" ++
  "d?N([ms!VW8rfODWkD6gUU9)1@(>0%x^YhF18*%,6**4n8._4ZwHsJgJrb..uz$ky!%zewf&na^!(ONXk9T=gY=^%A,L1)av3a4Ib~yBq?Y>O_1H_6oWC;Gwx<gfL7@PPzD>gUr=bi5|mvZ94ovpZJ^DI]bJZPj_5jPFDp~Sw.vfGV;jSGDCafs5h!OUhXrf<>&m.XFHVbOY1lm$yFHdc>&IK:$6)ch^;t.ZqhU[p!m.r)s>T8MyR0CxafWT;D>@OZ*=tSzg,v!HePPMcm=3sC,CfTiyG%^ZL[e3Wf;2cjiD" ++
  "=5TT=hcJ~]u:qaSafjBrhd=,EG13Qlu~6VOuYN@mG!(K~a6rFq=i<gCHE9=GLUac+FNIR[vu3K7g!HB6?OIsXD*,AgQ~WD,w[O;a4(xiOKJO|O7l,k[jAub48bG$(_.eZ8*&duJv@hzd$tv_9ttsN0%YuqqS5]%~^&CUyy^|6xPaWWP&f.Q^xRi.w=DeIm_,&uMC]*b|q(9,G)v5ten)eX<=58vt2T0C%KT;d)L]%ooAXni@%wGC7o=0[:L<qg>YZ*N.ad5]bpKUaGn|edN<qsFgR0qy0.,aul^^hQtn7%GY" ++
  "%>9LR^cUNyfDGz!i.58~7l?M<M>,z=[HC@?,><dt@[rn?q!qup2Pc~:R?_CWHurm+lOj^=s_a!wTs%HbcH@D:tZ<doAC(|r_@*_Nb1(O&>(|Ed&&I7x+IF~lf)$KMpXrkowe(Y!X042H;iI(8+ZYiCq,8ZN6xgK?;EOeD$_(UD.j$AiWhJO%X%n0Qlv0Kc?jH[hMA!fd4(!Bw;7NYf(gv*m!QF%WmK?deSGu0CGye!cR4jjcf11_wC?84tfMujsb~VK]B9kTe(]XVJCt|$nkCQ0nJ&zycUc5&Gc.fO(tel~@" ++
  "(Kf1E7AUUqJf1E@6k0j!PeEENM5uTLofTuLJn;F9<34lpwp3TCNMLxxP)rEA5WtH0O&I[),19s@5Oq<C<rw<SDFNEef&hGUdq$z^<f;F40H8:=2(c$DlRuVz5yT(945AyJthj.0U;M~s6.c@naY8B(k]l7y%gb8uu0QF%KM;4(eQK~OyM>tf@zHXdEA7zHFdQrI+HhvMmj>=<@a^Hp@XL6LxzXf]$qGk,cS5!gAM*g~^E!5l6=K8HY*lPzQRY~%vU6lZxwS!AI=j]7vSMFhhydvabM[>myLgJgVmQ)CGbY0," ++
  "KwaL8LCMCV=cZ_a$QMg*_+u~A$,h=cQ&4U$BUtZ[?MukHl>.AbiU9Z+$;vqnf=+1O.Fikpb01JHmiqzzD*azf.I861:?KBX5X..L,O&GO2WRIxCGS*P.[hf7AoJzQs@<DA,>wtplFC1M3&08ZUWq1;A.RLxT^_1=le~Vbf:@vN5FT]LgeXxgjTTIpf!1d9UJ$i&*TE51stdwMyZh_faJ<X3w[G4=u+S,o%[mx|+*71_)~Bxa;(iseMX520x_Ag5s*8iR<Qzz!UG3.4w=+HR9f!:mD4Z_ppcS&^,lz4SQD[fo" ++
  "N;fdIR]Zgon(6(Y]^UsZ<mGln=Phrkoeh[%=5s8[?GzXnLl$@6(g6R>QGKCIAVw^KqEVy1.L(?2NRbE6hvW[8Q,7H|SY^NWUPrn,8jAUXN=d!3IOVv&vI_z;R%;@oQ@Um6K?(R8)bigF9%IjZ:Kl0<qa=f>93jpjjCFlIERT~9nKvm^F5o8TqtZtVhP;IwE+y4Hx6sZo)uP!%0[[KnRe;n7z2+2~9bJM?e7;YaV|4Qz6r+uPtH8BLY,Wdu*fkykxRrU.PsS:X[Mp+RemGLr$4(YV,s[(UKp.435T2uis,T7W" ++
  "O0rUKcTc19<H5Q)Jdq.?I_>8:ulYx3Co;]k_8[QHvr@CA%G0_y;p8nxRr1&srgsF[eX@rqhA$6U^CZM3PBB5<ox7ch4DrrJDzw%4Z;d~N(iW<vm1Jh:h]3n3SU2z]Yy<e&l$cG6uXQ30Pc=]Sp6UoFAa[@2nDyAn*UDCOwWrBUF7~xUDj$b<^1cXps@B*F(=N1+EqT>dIX;6[8yEgWuX=sG_*aA5+NuR8u8&|u9~ZGi<(9SNG4)Gaz*y>6xW[TzP:fuI>ssEC+|NG_szSnrkiM9G@8dJHK(,~X+DRjcJse%U" ++
  "31@:EPZaaa=y^8jWzxAUuPULEez.Kx(HZ_&Uv<~4$FZY,RPcg;kUFx0W:G,XyJ,%*,D>[@oW|i2I2l7@!gta=qzKZ9a%J!y9+|[CKxH5)MFLt4vOZNk*Q1yFI~LUNXdQ1,.ZX(4xVBadAW%B(Gx0FHD+dRIytiA8g2iuM5j)PghV~LuemOiphNhzNy1cu5%s+M$DQful.rLFck@:GC9sNWn(IE]?A;]o0oNy]8p*9hdnF7HsIska8JTXJhDS*N@yn<hL4wGv[74wl6YmQF?RX~GrE?FT3ClD<.QDSV?S2qlB" ++
  "Y?+Y2NLGuh,TecO?~NO2L5N5Jj2J0b]R~fH[*gY:YVBdMi2MXqI+O%6c8JZdEi=z&Y|5$P=+:w^FN6zGyOKNw^&0z15sB|_tZ]?PW5=c+sO2cMD)t.K!jDuY_F[KkyPiWVr|HkJqMsDk,9467[OAta[i.MK:vi3BXDwrEasDv%YC1HCu~9x8amj3~GvXB?7Q%EH9mI6Jjko0+$+pBZ$>x@6LG^VBRv3U7VA;^dtRWw@&&I1Jup~S~x7bi|x,;GvL)G:f3c[|jl1..JkHw>6<&8N%CQIE1s3gJF.A%obDxW($" ++
  "wqZ*dBeP@xDwLnq3$dfNo*o|I>VJ)n*SHnuZy1O)QS@yqY:ZQp2F:Ti61~Jc;8L&V*1v>.XdwUGde?;~;E8k7:v]r+vCy$OTI9^nd~l15mGmcxDzzB,9%;DNLGdr12EDuqWxT7lMx1~q:@)HP26[p]?G_yaDY+)]FUbOL_l;!tYjVPy[=n,|UEBq]_t0,]Y*COS$m=bswEXyF52<:I%&25!$2]pi)byl)f.rh0)3&e(P2)Xqb>I>NYcT8r_sFh,k(wh?jHhjbV]aXb$Ix@vB.uh]czC&E$$5u3[@.).bMx&q" ++
  "aZSYQAFua:B5Cd~fuu!h^qv~U:^!:QWcskHBq%aWj:QYWs6xTCW4Vm5IZ!]^j(!i2xBu0IyOC>Gt3O4hFfQ<DbmllAM,viokxdLWg2qDzY2F_3K~mAd7s)k,%s&kW:$aER(r~19U[uFdqX[EGB68hD.ClL]Vcszsgexs15pyE2MvZ=v3H3oO^sR|*W>w*Gf=(yF&|=RInvQ&d7Lal=kNylwk[.1%5|@|LkKFMCa<Li6vId!PJF<6"

/-- The lines packed in `packed`. -/
def lines : Array String := ((Compression.inflateText packed).splitOn "\n").toArray

/-- Every key of the tables, the master's first, separated by commas. -/
def keyList : String := lines.getD 0 ""

/-- The keys of the tables: a table names each key by its place here. -/
def keys : Array String := (keyList.splitOn ",").toArray

/-- The value of a digit of base 62 (`0`-`9`, `A`-`Z`, `a`-`z`). -/
def digitValue (c : Char) : Nat :=
  if c.isDigit then c.toNat - 48 else if c.isUpper then c.toNat - 55 else c.toNat - 61

/-- The entries of a compact table with the places of their keys among `keys`. An entry after
`^` names its key's place in the two digits of base 62 that follow; an entry after a bar has the
key after the key of the entry before it, or the first key. -/
def placedEntries (next : Nat) : List (List Char) → List (Nat × List Char)
  | [] => []
  | ('^' :: a :: b :: value) :: rest =>
    let place := digitValue a * 62 + digitValue b
    (place, value) :: placedEntries (place + 1) rest
  | ('|' :: value) :: rest => (next, value) :: placedEntries (next + 1) rest
  | _ :: rest => placedEntries next rest

/-- A phrase table as JSON text, from its compact form: its entries, each its key's mark
(`placedEntries`) and then its value as JSON writes it between quotes. -/
def expand (compact : String) : String :=
  let marked := compact.toList.splitBy fun _ c => c != '|' && c != '^'
  let entries := (placedEntries 0 marked).map fun (place, value) =>
    "\"" ++ keys.getD place "" ++ "\":\"" ++ String.ofList value ++ "\""
  "\x7b" ++ ",".intercalate entries ++ "\x7d"

/-- The phrase table of `de_DE`. -/
def deDE : String := expand (lines.getD 3 "")

/-- The phrase table of `en_CA`. -/
def enCA : String := expand (lines.getD 2 "")

/-- The phrase table of `en_MASTER`. -/
def enMASTER : String := expand (lines.getD 1 "")

/-- The phrase table of `es_CL`. -/
def esCL : String := expand (lines.getD 6 "")

/-- The phrase table of `fi_FI`. -/
def fiFI : String := expand (lines.getD 5 "")

/-- The phrase table of `ko_KO`. -/
def koKO : String := expand (lines.getD 10 "")

/-- The phrase table of `nl_NL`. -/
def nlNL : String := expand (lines.getD 4 "")

/-- The phrase table of `pl_PL`. -/
def plPL : String := expand (lines.getD 8 "")

/-- The phrase table of `pt_BR`. -/
def ptBR : String := expand (lines.getD 7 "")

/-- The phrase table of `ru_RU`. -/
def ruRU : String := expand (lines.getD 9 "")

/-- The shipped translations by code, in load order. -/
def translations : List (String × String) :=
  [("de_DE", deDE),
   ("en_CA", enCA),
   ("es_CL", esCL),
   ("fi_FI", fiFI),
   ("ko_KO", koKO),
   ("nl_NL", nlNL),
   ("pl_PL", plPL),
   ("pt_BR", ptBR),
   ("ru_RU", ruRU)]

end Airwaves.Locale.Tables
