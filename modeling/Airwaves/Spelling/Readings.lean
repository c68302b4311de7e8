import Airwaves.Compression.Inflate
/-!
# Readings of Chinese characters

A Chinese character of U+4E00 to U+9FFF is spelled by its Mandarin reading in pinyin without
tones, and a blank after it.
-/
namespace Airwaves.Spelling

/-- The syllables of the readings, the most frequent first (`-` leads), each written with a
capital first letter and run together with the next. -/
def syllableRows : List String := [
  "-YiJiYuXiLiZhiYanJianLuQiFuXianWeiShiJuBiHuiWuQianYinHuYingJieJiaoZhuDiXieChiXuYaoEPiYuanYouXiao",
  "JingQuShuGuiGuZhenZiHeJinBoJueLianChuShenDanMiJiaChanSiTiLingYangMoShanLiuHanYunLanFanMeiXiangQiu",
  "YaChenFengHuanKuiChengWanFenHuangTanZhouGeTangFeiDuHongKeNiWenXunYongChangDuoLeiSuLuoAiBaGanYeTuo",
  "XiaSuiBaoBianJiangLongTuZhuoZongHuoJiuMaoXuanAoTongZhaDianZhengZhongBeiQuanRenChouCongLiaoQiang",
  "XingJunQiaoQingDongHaoZheAnErMengNieTaTaoKuangMinTingCiDangGuanGuoPuQinYueBiaoHuaLaoXiuBuDaoGaoGou",
  "PingDaiBanKunMianMuShengCuiManBingDiaoDieMaRuTiaoZhangChaDaGongXinLinPengWoBinCanPanRongZhanZhao",
  "ChunDingLouTaiZhuanGaiLiangSongLangXueZeDouPoCuoDunFangHunLaLaiLieChaoCuShaoBangJuanQueSheZaoGeng",
  "HouKanKuNianTianWangGuaQiongWaZhuiChuanDuiLunShangChongMingPiaoShaZuoBengFaJiongGangGuangKaiKang",
  "PianQieSeCaiCheNaOuPeiTuiZuBaiCeChuangDuanMangPaoSanZanChuoDengNingNongRouBenMaiMiaoNuoPinSuoZou",
  "SouTunZaiZhuangGunKuaiNaiSaShouZuiKuoLeMenRanTouShuangShuoCaoHaiHuaiNaoPangCangChuiHengMouTengZeng",
  "BieKouMieNuPaiSunXiongHangKaoKengSaoNanRaoRuoSaiTieTuanZhaiCunKongLengQiaNiaoNiuRuanShuiTeZaKenRui",
  "ZangZunChaiDeGuaiKuaSangKuanPaRangShaiAngKaNangSuanFouHenShunZeiCengChuaiCuanPenRunShuaiWaiWengPie",
  "QunRiShuanACouDiuMeNuanRengZhuaCenEnGaGenHeiLuanNeiNiangNueSenZhunCaHaNeNenOReShuaYoZuanFoGeiLia",
  "LueMiuNinPouSengCalCwulElHalKelNengOlShimeSolSyaTwulZenZhuai"]

/-- The words of a row: a capital letter with the small letters after it, or a `-`. -/
def rowWords (row : String) : List String :=
  (row.toList.splitBy fun _ c => c.isLower).map fun w => String.ofList (w.map Char.toLower)

/-- The syllables, numbered from zero. -/
def syllables : Array String := (syllableRows.flatMap rowWords).toArray

/-- The readings of U+4E00 to U+9FFF, one byte per character, as a zlib stream in base 85: a
byte below 255 is the number of the character's syllable, and 255 is followed by that number less
255. -/
def packedReadings : String :=
  "LoSr%$kIy5*D52Pn|j$vKh)(WLE1S(o59JZKJ,RPLGfa:Q%WlVYz]5:TuUngb3H0j?AsM(U3]hWcYgRz21e1erO.zO_huB|]&E^0sk%3zYIsy24A=Zt9$xR>RY|b+a3^RqaUn,MkDeB]cy_Ckj&e_H_DD^ZklsPv%BhBA!lSaU4um&pGQ@iRtvN0mNLaRy+vU;wl:XhEro8|a[@vq46^;$PC[(:12ppKm!Y|bAMaF8F&VW!golN.WjLq!gEz$spoQ6+4]1:R@BDU=sZ=YNYDncO,T:=MaDxG8*TI)|7q$yEF" ++
  "*<vFb.vc4TX]3doD4YJYwq)8f<aOiV&4ty_vk@FAiq[hss+VkoI&,h5R4WCK8rH5Lt6dob;o<p_3[d<ms9Iyl3G<y&T0yi|7hcB3L(s!$gb7!9<t>RyDnauW;%K3[2okT6TG&B!u<O_YXPMxiW>T<UgbJ.%jbX_%e.ywh.P5aQKAJ|,?WFwifcz7!x,ao%9|091%Z9XF!2z(,F]L7PaZP7yHSK6_@5[=kMUI%JDh%2j;I<v76UM_WpBIEWU3>s.e_hI^5W:N7[;4%mL(iR(pcF4<.qYJG2)l:hXs+HIK^Md." ++
  ".rL)JFvT.FL_d.b.E*t(?yd!(KvB!+V*g*)MM=B%X.PqdNm]E,6zC[o?HTS@xpkhBad2v]NqD04%n]IV>ad2z$[V@h%cad8H03*,nZpd~z9_lCJ)3%;J5nv=1v;3=Orw=efUM4DDJ*yoo?~[P)Q^P,RS5?FK11H8*1t5QMI4mYyFnOgy==N~>tz%*3a<4OBzY!GIqo7>Y%>j2P:Xix>7U>o+K0Mhu^y_AJcU:yLV>6l7Nm?ereY0~X228XDY6.ze_Zogc5=jUGPzUd75KT?i2uFy%|0:>z.Xlh.IQ7jSf+YZ" ++
  "ZEfCyDu?QKw@!C)A:a5!9aT59KQd5x.N^$kIHRq9Pb@aN$*75Oh:yz,&9gCC4Eqb4yTQ:?*Qy%upoR3yAYRMx.:6BsuK)PUM+1Ri>fND3cKBP[z0Q9DU6*.$wrhULkXvpaf~2s_8&[d]a38t1ezifX0g.SPsTh1D=Vm(6=yV6zTN:+YOU.,0YHz%G(S[+MyIa$_<p2O$[YBtKC&2.LX7^x0b5YCehD6[%Tb8)LZOJ!shkCbL@8=bJQ]Y.=_^kY@h8bvfyw15Cm4=nnyk+rD@c9e4Q1r1lkiG6<!B*ydxc4A=" ++
  "JQ.]d*6%$^Y%_vtI!$G?nzXW%]&,N)u=6;.a2Z4f.D(4YyNI61otW6._@JGV%LwHVKdXt!ufCWF*,VZwF$ZVweSvB~d@8dTV^;b5b7BAv5VZ*=$+XoS?>kSE+bTGQJ2I4KTRRqA)|>5oq5~;N];CCI,.8o@R7Bmlwk!=WAmqbAs(i8CH;7i~:bWOPKv(7E0zaU5ot3^qhM1WR)gj?f<m!ndNZh3rLxmcK;zU2;@@nNf&+p.gL=Y2u,DfG1o%lc8N*JS_i0s=h4A6oGH8L5OM0.@YFWy&fhpdU=VX5(^B6uI," ++
  "27543X@_o~x)lLQ[5X:=q7?O~ZhObccx0,aT=R_l%)h4)0&Rr!g1Mk+:V!ZpNVCcoJFy1=ssx|2jAU;e4*5.NHgraxk9rxUm*Je,1TeDs$yU~_.N@JCIc>V<ghk1W9;W?ViexM*6jT94$]m5[G1d.fUjVGj9;+[5[FS4EsSZ+cQS8M+fpqd.u)9?BQ<>KN%k:.4U:%v[%Oho~Pi;bq<HAX63DCz66R@KU!@f?^MR7fq$RwcjI*80M.(m67I&7du%]%L)Ss3G?Om7.Ph~RvVrSxXxgMjA1b(4KBefw7?2ucUO" ++
  "Oh6!3hHY4.KU?6rnE7rL(B[CO(N|g1a&0maEJ^bD0qcG2eMCvSGQL|sUcqPaISY3Om;LCIv!n6|I>+0(3eL[h>Y8Pw)pm^^oA>z_Y$vlDQQG>&rMq,l_:O[)8$KzU9b.e+Xe.gO[ITi%J>y:SswMm3q:miupKzUNB_JkZj0DR)n@P]n6YYIEQ|Odb)S3N$!Oi.@%l$8i!3,3L;LDdi.q%*@vul>!<e9~V@^P36>U^nETOIGfv]Q!dfvGysnr+_von]q2gMGlful4I5oKghv%K&da[%ayxBFqUuo,>>o$vwsb" ++
  "AVhIeJ[*IVXScR!9HCmME9dff9.JOLAUFTFx=Sr*,UtQJw&]BFjWYujboblT0yo(=GOm(dg.%CBy,N[l0CWERDs*EpDl,]|.E;o(ZeWndCuM>7th0~_mZfbI&^PoQdya7iW@$|+AyV^hw_E_1I])qwTGQ<8=;X>:BfTGab2ez[T5hRA;I=B!::QW3fionA$0)!mf7T**+>(d^$$RQG=Wxp12lOU!W~Qw@c!a+UJkxZ85+LNhNH?)8l2oW7ZEXOviy5]OCYhaC*81*2fIN$tLvjwjy2sQ6Mw,>Wnbn>eU2aWO" ++
  "Y0(wJm.EN&A3,*ZxByHb&y$;nP8u[0&=lddS]HNj7v!f<v53!n1uDkGZ:l.OrC6qI^.*[Ig+Pi1ys!Y~;>Id0@Col<y@%|h]>!49$C7i?+3qSELa+$V+<*i63(MgSD6]E)lnzR=0^q$OV|6oam@_Q>iJF**L@D!q$P(2g]D%[%i[rQFwxc.^%O8J|gw30h6v:huwOv&mti%&rvaum~E)XavdDu>$7lPzSU]Z7A;.?j8d9pi$tYL]r!h0=OazdtxRrV<7,jY0pb*X9%0?PFrjl%ucymF$^KviZ4u%^eyEX|=5" ++
  "yE_giH?^V)bd+Fbd:oa&B0m,daNs4o1DI_v&gZi0Ot+nv$Rx&[axtC?w+a<OS,CCqh8^a8Uf*ahy]N2VkUGw8BF[.wOpS)TO<LvOTMne_blH.:m$X5)&eIJ15.m!G%@KaV?:S3ivb71rbtTLAW>g)F5k9*;+nHy(VtfOe?PBK!2(E.U!JgrBq$X2j5_e!pn@ZNXk?OE~OXSJwcSc>|PiZujXuc>V)4f1XRfR1e$|o<lZ=QB<Qo0b*0NwM?t=bDj3pjN6y0V2+Nv2?|WI)$%b5*d4Z7Y4w(Qb>JLF?MOM+TYc" ++
  "Mu.XI,ri8zMX7Za<mu)<P[rZu&qWa9(0+;j6p+![.bNHUU_P=qt5QGspX&H!EmZ1.u~(:,!F+ol%g*Q?lPM(Tc^A~Zy%1b:(^ODtV&SbV2@~Psz;F(&XE0GKt%ba>9eX|yaDtR|Xc9hq$_7;.,o4BJ%~pM?D%TVDKmu7h5ua=gItsxPS?VXISz^b|Uh0=|&ABmHG|y7Ph_2O%&Z0?sVq%71%B2O35nijs?lgCf?&F|G;3Ue7u!=uFjt4%]Xef[CR,YA*>=2xkW3u)f&Z+tPE<<miwie,TdiwJfJ2?ABDbYX@" ++
  "hMkIouM^wQN%v(03gihzhXqpV.L,rD[&]uD:st5ziQ$c(]r>cTY$$HirAr%)xPAB|:*_eMFfCeZQAim7ivAGSsN6!udFt3Mc3$Cx2gy&3+2r%<bM.0%&K5Zm==aRbn]4zGgfdF2xVbbQaAhT,J%x8T54Cy7x>v;!2o@Rz3x;HrZV.fvq41;Y03Z~X(uo8dBhOxA)1oKa,gjGv>lsOxMv7Ip>dBzcv73QiK%]N3*ot+w2uJO4,ZeIzYih@G6ja)5%z7pz;a*y!ic3ATrDzrfP^D,0fP,cqi(Q8*W8KNM7Nb&$" ++
  ")0djcqql,,ThxO?Idr2HYQ;<ebDh^]l|SE)(:l?Xpt]~L.4A!7Q~AAJAMy^=6f2k4_?+w(.PSVn_7pGMZ78Va(DK>r5boDfyIugUY5h7d=trbin%AsM!X1plXaQ~zn~:$^hjUDd39EzWz8Vh6Z6&.b10&Yyo1B5!?Y.tL9;A$GoN_([?7jHh,6)$3%~pEgl+X8d$H[exbiLrxqO1|hj%9qlJ;~B|)0]<$rk5m=;>eeS;GoY=c([&+H3R<[AG>57A|4A]h.0;%.flz?Eg3|Bor3eDv[VpwWl<;TqzJV2Lq&P;" ++
  ">E0SAWq=~21Fk]+XG.Q0RhBzx&+$@9f86Y.XfvQN4H+egypl=&L:8]1j;R1pRBW?5>_i&m^?qG!@E]^2g49ug;CE=L00ss4IgFjVVd>QpnfUYu&O8Gbun_0h;w:(:*&(8Sf]Ob9D:?=|KY]izvQoh41,b0F+8>N7K,z9$&[.5_JU1xH3ke5;a;+_$QRuR3_CsvDVsbI(A^=PMWZbVNZdXuWZ2zBng@8wD!ukZuJYEPhy|*Zg,B)]P9%Jb;xxjX)ECRG2!leO$MNl|_P[@KbL9y7LZbDY(bRwM%(zRuxWGkx=" ++
  "$*|?T=(x~l*j=MrS^r<$6?:6;P~F6<LtBtGNr8&avalL@l$tpdh$3S!V,_RAS=Bhruv<&]bQ<k|Z[(H,1Q,b:gM7Krl!ybDHlYlQTI0s2GtGXpu,[4!9(QDraN<hE.]<(j378p[SbpB*vjd>$].YfgN,jyg<L+0TjtI2nk5fiihECxcezUYfG|[,93[iKs<c_yTcB<*~Ui?yG=Oo&6Dw>XIO8Jy=&J&:|IRE%nCf,7xKmMF70Yw7g6%h^>WWw;?kaE|)?M8tCILLa+nvR5*5S>YUs!,Q^7HG4$g:9b?82?7i" ++
  "Ffmg&Xty,y>n$Y|S~qb5_p;MJ=ZKDQN:Qy03w(=Kr7d^%Zy?D!0S(,J5~z1iEHtksOrF:QxHL17RECqz,g>TF0LRQu8Ff&leHIg$jROR@Vdi0ddu6~ukpxN>L:DSx<AA==qS:7b=ww36YVMIw%cLjT,O.KL351qHUlTWJVeZ2XH@geo*WLVoAhwo!ayJjKsq0T.+>y.!GsLwI.p7@wp=jG4K__mIL[pNq1W0W;uvHNX<@;8.6Jn;>a?>K6@GL*xx?1$04tRuB$ZY944aI>?q+!qyeO![e?BwL|dffAl?y|m$" ++
  "BeU]d82%2w$((hwKmxBEjy$x$r0q$E<Rx+^BrffYOM:M5=tBZTAa^w~$1$TAuPezlsk+_~12zvfF%)Iw^m^5kB>hrT$M;PSe_HjZs0~!_Kc?yzfe6vetvq%tqn>Lv2+qhE_&QwriOv8nLRkl%k>eH|v>BspdjyEYrKHd8eJ.o.Kd%f>%,1J7US$ye&!.!D,kI1j.bgr41h7r^QmRSxVPXFb=+BpKy]r*Op06An6ugt!1KYc~qVKTuR=)Lo^B5PfW7!VQVF4<&%)d13>ki209rih>SocU2L:;5NxU1iY3t0[d" ++
  "8I:I%,gCiDrx_yd8uuBidWbPsbH.xU0fgD|vwy%ipsQb(>[S?U;1UaE7_O1h2(_BxS^415$W1+S(_w<iM)n)6B](en7mNW.v;Vw@T&qOe3tGTRO~bQ;JO2qUXh*_w!I+7V?63xfA1q|daK(iRausD@mM;PBEEsBsV<)eI1IdC?K+bXj_8z<8J%(I5x_$blyg,(G=;b_x$vjOktAUC~Wm%Xa$S>c2_pm~KKY7CfV6dpQC40i2g[&dh8]vksAVtyg9X|6svN<>MkK6Y6S8;B[$hGX%5m?s7Fp*=CIFPtvx]S6n" ++
  "Oo(x;*J;WRLdO),ln*m90YP=v:v7YHg_(UNL(vmP>>c|GNxU6>I16(4=rzK*a$6w>[z|N973ThgcI4~Mr;ZVES|V;OItWKmlBGW!C5X?C!o9m=14<.Px~35][:$O$ZSpKNj<8<<3Cw8tvd^UiYo@j[RdbajM|?cU.!5*=$CQj%uWXuQjUJDQTC&^fmRQ|>oz!$+YfG=)IUJOR4,f$VbrT[xEJaySkOSs8>@[Hcc6DS|vueMI7t9HeNwXVb=SU7[uSi0?F@*]dJ04T4Z0Vx76G0WtiOK2*ozKFeSVqp8^.xwR" ++
  "Dg!Y6f8Ah(XpJnPRt:,Vj0RFwZw@C)[D2IC!W.mNMG>bo%N;Tp&sa>3Dz)4[BL34G13kScE.Nq(<Aj|%x:bUuV1V,K?yn<]X].J2iC9]T<~l%(g*k@%pOYKWNNd&8ZUC6.N9zd^X3<;S(EqjFqBsu<6(CyR*qr9U[]iS2fX)6;0AFf,jM7kUZU*O6K!lVC2,&OarVX_ld.~X[3gsXzYWVpXZA.moS8U(X>JDf)yygKu6OG~62Y[vJe*>s<q2^?6dghtBYK:V,oSC*j!f17K6Yik&ANHgBFkmmgDef>[7qAi=" ++
  "Du&<<&wSRR6yf,WFkDUFmn;RAQHc*YxWA>BoO[fqPpK<qXkA4w*<Q>w<T[nCu9h&MY<i]2cfUJ!>jiIt61vewb]hlNuzPYqfvqz+Z)iWEtiGUDx(z?tjqy~S8::K=9J.p|wJ;;6Axk7vf=5*G0Os_BVnUZ6Hm4e!4h=G@>%aiO:>>AhHa[x(cDJCV.3Sr0gkFZdaW*q&z;wQxbW.Faka8H[@N]vAi_k+EbZ[~8A[<$6$a>34Ab.LzQVu(=MfR~Cwix?q=4PHn;LqCN2$wGMsT!?]bDBCq$4k_eWo[iZZ8zf5" ++
  "MS]52DZ,rR>|72YEjLc>??4c7wb<~Amhsx_IQt~K;F9Al*fi:Cz4>W0o[u+.ARWF2U8rt)9<97StXH<XG+YIw0yjsPA<=2cG(ikHB.Y3|g7%(oul6g<W6D$VQ[1lhFvBn|N$eKJs%=<V4.bz[_^!lgV~%YHbR45(BCajyckHJx^%!_ylUpPKN.J6b<WPH~!_mYD9rZd4iWmCz]Sz@nk?ozgdPmDywG_e1jnl?m2bLIU8X8C;PRKc*hsc[&.N]%E!r,Vg!;NIR@wMR;KJGJG;aL0PlU[j,H?5n4[;ZnEc%_tz" ++
  "2sZc3w*!h=^,e9&<4]sH.xm2.LETojYU[dw4T30N,]0nmCnUoO&Dkdb^P.>]RP.JcbK5X<>gVQ*[![?=+;::XX4P9e=yDWZdyOvU7f%<G2_z%JNNjIk)5TxyDK7&s+f.QBWw!n@Fw@I@b;)P4M^^):GL[8x&TVjs6TYA2o,bivDT|iqIjxfQu4Lzo1o)jP(2h!:0&YIto|m_Ls:N7R@cL+PrB+.9R58>(5H<EO!aSn0k(A$CTO.:URQ_S^wh+q5a=72T=dcOYHLG[vbpNJBM!DukOexTP(XXbv.1WC^*63zF" ++
  "r&Ni4)KCqHHDtg$+.ykmg7tvP6bNgei4ey:^fovp%&~M:^m7?xp8i0V,(b_&;jrJ>rdA:fdM%D=t+bhX2:t%?>>wa~d!OZJjx7dCn~%oym.C||H+HSjwpn@OmgR%EmD!6ufhl[t<5r4gvx,1KGK^KQ3IPJtcsmd.@6JZBG6_CoNx1^>G7wQlly:YCK=0KhOI=o~[,YvjS~Z;IbN+wWh?KsW>FOS!*ZP9>?&.V_hjwi@!(a6Qsksm$GU[I8hP5!hlW:X7D4AI=;rJ]1TKBKyOYgBacfJ66=*xVp9KS<Ke:WZM" ++
  "7Yv<xd&AfS^?[.^Fwe7P4SYWOMz6hCpFO;=rwsIbEWcd3h5,pY*YHcwXQv[I:RnO^naG[S64Y(|I+l0fr7txqlVcwZ<^2?!rTQ,~bbe8@O*@*3)d1M[lXMYwKd5K^ny$,OBU6Ua+wPy,cUi4CA!6ddyP=a|J+;!([MTjB0BVnaI_T>aFQV4uGduWV^;;a4_c&s>LbC=T4^k7Te5%6Tt?^ssp@nDhZgB^AiuvTm<K+dMtIi7flnwlj!~G[oo*vYZ40Bve7+w&iSA>nLDAe]_O8=]d7Ob4x5]zF+r78y[&rCME" ++
  "C,pcb=?Ie(n]JizAxE9J&<&F;;D[^JBtNsdd~t[a(&Mc_>bH(.C2IYIBI,=xuikefY_Q?7a,@8_lf]xer[;&+py;kWt~zr9GrOk&x8Kt|jL..26ER8qkbp9n%,SJ1*i^;16>Jv]o0^gMJJ5c~B,d,C%f]~%j(SVq_~ss>uL.vEjqR,IrM<y&>nz|+mlBtEFN0y;b5Qs)phLku<Saio::SZlY_=Zw&ojNYy6nrGQqrYg(z*>fuBjJNQP|&mt@W$ty>L68JOtN(MvH0P^9JW4Uhq%EAaQ=WgupaE2vURjvw]z%" ++
  "M@nOd<dD0+ihJJY.d9vKE%ckj%6f;6jI@VBD?|RA;6AwSlU*BF3&H+D]=]uYhWPXF_Oa.f^y[>pRsLQ;tBoG.P7uIL0POE!F)o@g<Wmu.=hK8BdddKGW:pK$l?P:1Jix6gI)4cWEL4XZuqxLlg),2zI?^+C8rZTxjahDy23rl*xw+Pr_vvNouZWUDW@&<D]6DBTq9j@JRsp65T:&CPq*6td4$p0rOc|Lpfu1xEfoEcr$14nO;W0bhS|[?QE4]>WkPL~Hd!kwMt*CeP.o1K:SZiT4Ks;;QIPoSS7_8DY,2dZS" ++
  "C*di)<d;N;jm0+*4w06H?vl[caH=;HHdebI<k[Ef>fo[~o.Sw@tu^hVqCtQf(eeEFNpjCPLf9F:1bdG~[!H2?GqDf02r.aG?4?0|1MQ!vUxD^Bh_yI8lHo%.UBD|!,_wV.p_d8K6amQ9.9dhBNjuN=pst~[QEBiU%V4l4u,,P4h?LWMe_Nl?f(lqwYF~B,b!;S+_:k?LK;!EfV$<Q|*^;R68b,>dC.cZ!DAA[JVzx$dHg__Q$lWk659YT(&I]lBhAM%Bs9oPU[GtDtqq:dZbY:QqC$95d5$n[k2IrfXsxqi_" ++
  "cHH%xQu05Hr>ljONEb)SP>3U5alg<rChIkD&Ku[|$mYqE1@@=Hh>Y_Smrsy.2C$P8W8ZTsrZC6KhU9P~VY1ep$:mGp)>9rzj^4r+tW_T_1A.<2*B6Hv4u~i57Xbw|yf,6+6BWC[&%xsL:iQIZrS[L+6Ze,OKLKT_g*8X.Hz:_DazC.]RW+G$^i!<~cK,I::FtgN$8VUcV5bwG]1vPEY3i@8kM@h@wkOc33hM)b6A==SIj:qeWkUH7=L4.ft,c1ycG4L:%o[KMLo;oF=1GiKJlhFtl5%)Z^IS29+t0vF)<EVy" ++
  "]Fo?MPd2rPFqJ[djp93gO^IW^oWEJ6HN~8=6FgSHFhJnRd2tM~5v=Jyw,R9>,0P^uC(Y[0Bd$Y?RLci@IQ4ufwxqHgdJvQSDVy*pNANM.?*t.Gn6NnMxiV~o_tNxjKNwEckasF73|NWnE5osJ$0h%=?N%@XuC43=rR:.eMo].r=Xx^.+f[3jP8[V?2<++e5XOUqI|k13dO9eO%%^T=Jyfv?z4WL*b;E_D*Y;KV=e3l>HD4vx<+v~I;QnOmrY[QB2o;s<6Gc<a^n&j;ylQxg6Atp8w0+Q!Ie|t.6g=5do7;)]" ++
  "IgFxV7i,)Q85OC!1I(nN4$n7H3vyBopYd(<9bCi4=v|~i><j:2*ALqn!ooh^)&>n_(kOVrdr)QNM$_J6wnVKNnws<HH4D8A?K5*Crq9<TWswAr=1g=(!L?XEb%0(>Mh5A=LQsmYj),WwX96.!R@?vn7oib[rg:[VB<jjDqwxAJ)hNP]sv:pQu&L*u+$8xVl)Vnsl?iyhE:+.3*9Tcbk874]_qB|zj9ppiPwUs(S*v|l)21~Uc|x^!beJM_2$B|*.~gwiy:AEL::.Mx,I[By2!fZVn:ha&&%:@%v4_v+a=sL_" ++
  "^Ep5(L(^ck5MRNPZW,^U^AoO(>p9_RbCwB1%Dzin0_w~uQNyJ5p[TeA:%3|b;O@bxWKy!@LyftR(3R[Gw1lBETfA%&7R8zgOA(a_KLZwq&=iUY,DLS?)rl(Q^%2t@TX*&EVH~OjkI2%^!876fW1cE|kHTEx,S6T.?z@cr>0k*B>mNQx:e?b*L?Rd?r0K@8<Nc3*!2>7iIwWG=qe)(j_nk?36Mn6n$iW1eGhgd+%>ZnP;<XIqXc<fGDheF~=45+>SGk5mm4)hGgk0|4)>oXjVxj9LYz3|~&]KBa0n?Cn2LJy?" ++
  "U]03CI!kw8NjTUd]6z>If)i<vCRAZp<OU|(LY_28_6,rCrgr0hB)A>WtaLZygmc93aEA3AN3&qgmNGY?2*f.pt(m9$*<W8B!:V|X?k$V5?dfAp:H)TpQXXhd*KFMu?ha;ltUM7;k1$y)vIeu06:9v&ASRo]vl:7w&X,2ypZjcAsp[o2p2@~!<m6U+%tPD)%:ym1;gu(u!:9qwqvKaX0pckH,o4KRN9!cdcaCTTC5Qs6hR<>HJ4<P<qp*TDwLAfoGn3@g+)mpIp3.<kv6|CnQHQ?:sK[xmD<Qvv[qnEK.4Qt." ++
  "?6Gypx777@eJ2q3_Tk:RkYCj]Q[OL0)bA3>N[;Fch!Djz4HtHJqM+SUnfr[&>z9?MMj~^V:y<Ep(3VfSob!%L:G=KG?pHT!_GlXAZmv]@Q>;!J)2Uk^TMr$Cckkja1yl&_A(+t,wcUC^9P+,Fd*1lQ^AI05Uimp~Y;!FA$Mlun%a6NZ^2I,z_F?,AX7@+F5*3jk%go[)Rdw|]5r?)ZU5&rdA~(Ogxghp6lu:oUoP&^G14DQsYVQ~3NzA6f1;L*OTBn6>)RPX97_2W[j$Cd&US<0%e1nX]x05_!:qq(fR9oLL" ++
  "Y_8r7iNBiQR6:laEN?+vTZkc+DXu&RP^<iuHgUrgf&o^uV$3d*dMz6yRbp2&sS+l790F&p.Ku80Q*9@xltk2bhAD8+%?5)oDHYT&v0UgrJRL0:Vb1.Q8Jj:1U]ODAa>:Pi[EXulCh>^Lt48lPp<<YhPWGVRrfSq>&mBHuA[J(r,wfFI<W!sb+BY~*;aZ;(+VlH^Ogn]eg2&:bFhlyHX<QypGy5n(8Yl@)MVL4C+IZkLMrAq*q:ipG;0gWxj?ErnBMt,_V.cqWdquiTy<P*G1]a+vF<;l|^6@O=@G7Ft3i:r]" ++
  "F:eqIpok47U!WM5q%P1a^uP!B9>K[]$&0J$c||;G]S]8$m:zv9%6X~(8*&bcaR6lxP,R_U[r~[=BLfZkL,R7xbgvZHe]Ca;k75i?AB@[>b=fL9Bw:Z=*:|*=t1O6RQV?Xko+w91L68k2$NkAfIZb$EDJ5>h;KpoVqrXZk:5m+wcuyl(A&ion7UCpv&if&@?XmmTgn!2.kz63C6CzWU2E&z^9t!8IFH&8M81%8685,|9ZRINPY0nvGkVE@u_wVM)md8;&AlFmLXQDJHbyTPG6RZJBGa%Dde_!=*n)ibVFqwt2" ++
  "wAqxP<aU(DE=[fK;6hB$3pH3O[NLIO!);7b9X.5,&OdHJBuCZW6k!OB]LIOzkJi(Ye3ou<D6Rjq7;;zF;$Jw|%Zb(ocg%F66m6KJyng)2%,^$$%_G+mT]K%c]Z8G)(Le(2=+D>i[HgwbdvlsPTvE3C5H|YYtPIg@9t@=kL9LtLMF[y<=s$&VucG<Hv*B~7(hlklq~=73cn^_W;H4,9fF2)whegUndMH<LwN)ZVt+9a$4?v|grCbl%^b9*z]mOoI+8WB8OJE;S<lm%;FYcz$:T&Jt[zirD&SqM97gf55X!8>." ++
  "<o<XK31S6diK)F6PiU&]03iOf,bN0]KqcY~%4yv+(CXc+P[(^wVACjJy4nmWnZbq;G!nqz?hq+8.YU~sCwBT]F2bsRO3HtgSjU2oi:=r*dLH[=_8^ZV.$~>qi!RV:,VowQfUwO*;iC[=o*8Ua,g0k!GM*.2HN<6y7q2Tw4lvr|Ba5fk+TG;r3^|&c_0|f+=0~wg,C_g%nvD].S^+WMC9H,zNvj5G6wp)5.,p&qQs2EyQN_hL8P_e8^%M1c(WiD%k8,WZ9AA!aaSGfmM7eTX!Z]4%]p&c%:RebRfdjaE:imE=" ++
  "QB5@xgA4_V?b3iX?;z|z5kd>7V,czS%jKwGC;Dt+oiwff<1A8e0|%@(KF.FeDV^Xd[jpVT?foP?EL)elK,MfG[l?h=VNFf!t]>5C;>.[OeZNGxF3Qw34W?8Pq%Wj$w^e+LrneAG16v^m<2.lytk7DLOV?wW[3sH)+j,:46^^=ZSa8vP*qrn+jt]^>mA0ae?7|Fs(jQlF4arMj4q~CHO%OzV9:feC,0&gJpQ(oRxrQ[3k7|QNVlY%D55;|*(J4u=w!7U<GKC;wHI@Te6|JfidX9g=D<~C3w!=PL:tZQngyQ62" ++
  ")OKP8<1b4V]80vbHc)Ey>PyGa!9NuD,D(A2QRx9c9<BJJ9g*L&jd@baD?%qZ!TXVIb3W*dfZcFVu,Z%.pGediK<|EdML|bUITA~wRaK5x&kHEqe68>lpjx(DOBM7L!^cg%k,3ErnV7~XDn83MWg]5to[][1yR%UZ)UzOd?dFk,38(H@c!fhAy)k=agXbZ8+vOO:bzrp^Pc6mT7hlHIHPL6aDDupyrU<a,>O[vPo7kd@pWAnb[OFi5XOb^.*g+_XO.G&nXO&r1(xkv0Vx8uVMPXP7qxm^ON^;]3M<gj>Rnt6s" ++
  "w.SP4q_RK_=selZ32a>c+nY8j+NF5D!e<dA7YU;r:w0Jr+_idxX1N+v9>:eoKNdX]Yju:iD|c_ZSVHkZ=p1[~6SoG5;Aho)k?[?^UL+smVtRyM?|V0WIU;,XH8c8cytv74]C0w?8mynRq)&Tlpv+(.^8%imv>xWw?W1oU1IWN@fXPap+TIkr3~iR;QN0rIJ255>Ehf<|:tVk@M_+!w>B%%VcFBT13w~|;PblV)&V@6=CpyeWHHi)s]7b*obt9+_KJ8tL.[xl76w2VZr+*UX7M@Iz[pMg]:$r,Vm|pS%vD?,~" ++
  ";puHLLe1~gdU5R]9Xu_H=jr[%I(R>JsnLPlN0~*.y>y.a$.;O1QE=CXQZo[~+GDXGkw4b(E~rn?T*3N9W>ZDI2VF^~?WDGn]@K[!!F1j_V(?FP<~8:!hORRysHt)t9^1_Fu.J08aNeo%]l9*HHOUNj)4|sQS%L3Y.R,)%m[v$dQhUdB3Hw;ZjNr4FGntkON$yV$%aGld1zHB;N~_>aWGruLsVD$%.rb1%<F~8Ho,b<oet^hZQ3,Y,qT<S$x]q1FKM*C~h&%3ATXrzAAfqO2o)>bt;+IGuAh_SUoa>BO;FX^O" ++
  "z0^IyihLk*^)b*HCbi+555M;;NJQnH!X~nbNcCpV^X3,D88t_ILp2@(mRQT7P!ke1huOGO9CtMCL:%0)H^>$gRlGXwHs9M!@)pMJ9|>(rp8Ch2;;wmneDmn[alaM9OV~>Pw&9o,9zXu3p_9VyQ<%xK^]Q7+e|4R+K6yqN,M*:(XI9pmw&b]pNf7ekt:5=l?0VKJ8b.(9MH.MWACYUp)UVs9cVc(9_R6MTW&Sl,8^!*g!rD)Gcc@R$AH:oDfD7q67j)mtJC^=5D(iati<&=;BNPm~R6f_.s!MQb+*IMc4zK(W" ++
  "Ozw8uuiwiIWH[,L,0n80U_1Y$Mqx?UW(^D%jh[9rNEiTI6wRu0B2][7:_<NP52g]M2tHt_Tb^ljRhtBBcuHL>qXS+0kK1jH1S3hzCCHh~CL0y3%_&c8Rjf6Nvp)L*^[)q&<bBa!2&OH4U>>K!lfq6E;Yb2Am__$!<L0@<8nTBRA!(@q8gq*exYbvN$.zvx9+h!pfn2KMRI3yDNtv^pPQmmceTp[v>a]YDJY<5wtF62H]cLH=LTF_M,RL7zuOMUcnQdh+^I^F<Ly1=7HFC(|^JNb]*?yx0BJ*RGKij8P6]w??" ++
  "pcyKT.R+)sW+3x<?D(cNr$Pm+l|=sxy[R>5nMZf6aGtiKKHqZI,vU[C(Z[aBD_vZ10j)Q9I6%V8dDaS:)m_@|KP[l9g?kHHo?~trfl4xnxHb>Jfth&IJAmjXLI+$WxXKYVgrur!F?Ai,96?]8vc..TpNMlGS%$^rEFXI<l0~3u?uP1HCH]j?<xkEuZ>=E;,l<|ZUYFy1r*j+l39b.PoBYo5v+~Fg!GvW6!Wz<Fxm]]$CooulOR=[v!>>zK@Tze7$9rydr8O2)gSpEZ&;Wpmd&U%c6Zqli%&kQ,Sq=VfyRuZ:" ++
  "FP@255m2N*m!_+L6y?Yu2n370o3(TcbRV]xPO8::_=^eWVpK):ZC.U$uMoIIAb9<8rY+b$F*[RhNZ8M1a~1j+qao;<axbjvhOoJ)sU6vj1l^SRV@EgUQDQF4lV4ucLH?AX^n8z2HXOG%M2&rk]nQk_E,.!Q<k0LInG1Hh;yow]5x?U)0]rWlgkxlHOM@+POgs[W>2&~|y@1g6%riy[8Sx$8<j:X:JV%I$(0yv(&IZRw4gaXivmTzR&lQxSAN_nbQKe2.vBtsfOg;RwS>C$DTa1c*.ghG~Yyt]KKg]4eaHl7I" ++
  "ndg*yP$M;>tO8PuL*;=RjQ)Xv15[bXy9(kc9|RYmMBKfgl,T@K8my:.)cSsE*?(b@wnT,b4g[yw699w*cmvBwwWYHQ84nLovK1J|XgDrs]S_+i4zbBPlIDgg6|eO_3+&.0p,6H[$f$olHdp^YuvH(,Ek_LBWJ!;%?ZLbk1]YAnP:QC~%9cZ36_A!4N3tMExhR826[;!zuLlJjpu7rH3c6R[Hl^Yk@4~3Noz&azBJ>1d&@Gz_9nX7+dVM>tFR3eiLhnqeai9.9*9rjas3:1Q_h:fiB^%hw)*f<*qLPO%I?=[3" ++
  "N%>=*!yc_Y,3gd96Z)URi,v(nS0(>hl*huT>sEW^%p^v!pvGwh2ZccT$1oly[CRK@_x*F4O+d0(P[h3)0X<U<8fF06hqfyTlVxKaH3EB|8a:9,HYvs7gQ0LKCS;>in7td>*%.C=dM3Gnz!Hss4Tv6emcISr]]R4jM:O.=;c71AgPbtK=JgT.2ALESTBTFF.7z7;h<_8zBj~pU]m1rkKzm(v18wpUbJ^2=^(7ry3naSgAE<fz=v?2=C;SAzerMJA?b0iv$orN,jf:*w?IkQyHvL[EG5([cTa[B(0,V6<:OKU&" ++
  "Z*KeCu>c2dHv]rsuk8.fG.qng]P%4fX+2NRU%=XPqlO.1JamRiLUFDQXwrewuQ,BM42,@pe4ba~hJPiM&_lIfp88sMgvfP>K9gmB8G6iXyM(>dAatGh8:qkQPDmwWwOd,%Nz&pHC1upwPTh:5uAQavyEMXJV%ff|u3!%)d)4M!i_Q&RtPhLV:qmg0oBRq1k<ed!2I7cYnqYWC?J.fJ[;jwvGk=q0<GBVf.bG&JxqXO<4vpvNNM^(a?XqKH[|Z>d73=0_D=EpkmpD+pEe5)5n7e~b%Q8aZls_*^&:B<3N%@H9" ++
  "A6=9G6U.5ugWt;uaD[~(9|Nh.rd^jqPqsXvj.kYE+Q;rJ3dwA&f^45JJUif_EvX1!pLrM?)=i!:gnLILrLXDMZz)U|v;GBMCa4PmZ_Pv0w>7V[TUa<&*j.sjnu7[^Wzk!O]%TU5j!FD6[$|.(.*3z7o*cKJ!lhx!M|UicQg]6qcriEnXLe7$!f+c4CT[9hOFw!wMADzDM8J%r3GGqNGCC3huFStQpijGa=Ko!KW$R.ioUmwRV8M?8*UjX5m7PQhxhw.8_1FZ=0?K^jV1ow?W_$%~SgNe|K<eTN(rw@<sEtPN" ++
  "eMY_dZ0ep*VTIZ[^imnXkUeXz:>fNccl2=2:~s6a=6vZJw2mgxa(Og%v$8bE4Gso*v$VCya;UrX&N5d:Ds)@_y4M8wn|6TC)!5(%G1LbDN@]kzJKHi=_rNE&Vfj8V^Qp$~um82,kkW9n)LL$>3(utJYL!Jd<CR!WYDBn|?_j]R09SkPs$y:DdAb@6r+F&<hO1K+oxaWo$gp)ZcBRykN&WMl,^;JeJC?udnX!<)mc+5Ex0zmv(,4@vg|<+4WXen8mEA+J:7mqlm4XQKYic[@Z<^gMsp;Sv_=TEuhZi<h.il2<" ++
  "]O*fv!o@,sF@EOLJ;!*9HPKC$XGVvVoI,5Xqldz_oAxVv5;qd^+lvh9B|t%[shCaIEVFEq^Fz3o6:?$dO)Jw)0=irO&;h3Uy><xhXweWn5Hx,S*Catf<9Rnnz48tom)<zVo=_~^hL&&d>0>3GNPDA.IQpFam>2.LlGeTzdq_XSy8::l$<)C[)^sgJoy.AL49wm^1vg.mcEY~$gACc*;nb5lAN!>bJ%*;aBNsn?1HT0;0?@3jB*?5[^5GNPFZ@DQkcU70*VSD)upRf*4=|P7o_|rnQBhP=e.iYLD%7~@*>dW;" ++
  "SIRoQo2WLM=K8.c<StO$CW[.x[;c*.T6)^q,C~F%0v70m:xIZVTQ?z|MrZk()Sx9ke_eGCnd53X[P2,mu1o3YE(Nx)U&)p8tS*kdx1|Y&Pr4tLJor.:z6&tjLOG1Wx*R^hc~Poq8()2v;4fe35Dz8(^[+Dg0yq_E:1.BZf2C@fQ;O?+kX)DmepK*?CzKrn2@C^~*5k@9+YC|4C,4W=xrsyHGP@T&xva%gSr;v,,%:L~P&0*62B&EMaH^!r[X3htd:1q<*uMl59v!q6Jb~K6&T3RBPxor,EZ27X_m2%E>HD;x" ++
  "Ljsw[LFDnLd$07vGx?NVur?,lM6QFwF<fZVz1Ix8kkFteD6qV%L;L^RF%YE8W?<U]R5>;8nI8aiQ?OhyU8IYwP$Z1u^TA0X0r7%;th|EG8UGg2];=q[)TUeW>6Pa91A2GtSfYk(!ReHa$)9lB.CC$jtYvls0M_@Jd_xIWN(|c[YKXSSKp%h[Ow!q~JFZy&6<=B?,|_+qVc44Zt9lTH1~0.Id;l,TLI1fWXipHOEnM:^JnuEOk+h~VO.$oA_d[edh.?W]sHb]RIEe1FA9.f_q@>$WvpeowWNn@NGQ(EEUS<t2" ++
  "J~?Cu*3<7ecMUp$:OW0&t1Bwt_3vfgWc1WXFALU$8AE(8$Wj^>IQkE2]o8E*B~D@;aVv](TCCg*3LpugXP%s!=|!p~0f1x4Ab6&W&g_B!OyZqB(PZ.)2?C9XJ^$=Ma>DFwu+q0wCtJ~2mQ^+^%Gct6$uV_<OG@Pb;Uc@It6fHORvjN1N4F+.Mwx6GyLuy(.DUnsuz(sWb](R&!&1A~_>E>Z9.=57]riUpPm5JR0qZ7)83U4RMhR.D6o|IXN9(m]rUzQ*7z=b7t,J4K<Pg9HwWhg&@7xV)b3rqWGxEi2>B:<F" ++
  "KRA1NMymYWDcTje:DreH%^Z%iz*~IYO|:Tcq6YS4q|(r84j0Zaq^KseMCuJ%bEJFu=2vJenzPonL9Xt9.4M64I=gAvo|A7VYa(8[0PCy9bRbf4fcMtiO?KFr!i+*!GGd8YI&GFLqFeRs>l<:Un,8yc(mYl]ahzp8Z*FbKZOQPnH.!j*Yrm2&Am_u|Hy0(1AaF8xQj*7Ks5A:+wYruLRj0O2R8lgtrNX2)nOXqlgl7r8N4t8$RvP4RKZrXp3SQ:_&;g=kp*&KWu%!P)R)&!Y[V|$yL?Z@|UcaiRn6A^i[!5kw" ++
  ",H)|SMng%fR,6eETD(npny=i)iSl3riKhU*!7q@]9Ek4lHXdB|<GC&M4KzVm:Mq.6<5hf;wVQ|PlL8<8hJ1PDTwvoX&zZNdI^XjLOy^RnJd,QePP:mV$SiRTf]ZKq^ZdSDiUkoWBS5;s.C%5F[;.,<(dzCt,R34By0j~cKZWiCy3!T:vre3o!7Zs$i<D<+S$nlzG2O4d8Z1+daGuo4wvA0i1vh<il%1CU+^W+jGjdgvQwB>&VI63]16tyy0mG:GTb%Jk3>OmermY?y0Y]!zPR=.)r9%8.;PN?5d.G]k[x3lN" ++
  "gAuS:=9F2tw;fP0nY0|Gcgv.Q;W2!DyA@sHs~4??>*hIoZxsFUX>6ENXcBZteZwq[!RzqVTBCHlOhL0h^)%JC?:5DuK~|_3Sjruy2dPwGq>G<~EVdy>Yt[(h%$w[5UJGxJhQ.hmsB+?y@*N_^i>n&*MpiT^thCaIxUT1jl8sB3knxpFcoKDR_I?*7P%N[SmN?@RNlBg,W?^,w7x!+;p+9.so(M?xmX61Y5UQK)?[KeU:oPnU^<tXBW(AG9L>%cAmdC3p0y]Tj^v!Q6^kHQ7[W;EH8aZa15EghbGG7u!;XMm(" ++
  "r5SV<LT!$WVdY~0UKk4vgPC.fl.;HH+%TM$vd0GOqU8V1@jciV0NUZgp7?~nlZOzpfV<h%h|g|,C)DVOMwR!Z<6&Zn8vNv1p|jG8xdzvnbDddt(N<D=yiJw)ro=ZnCf1uglTmY9Y;&MHIP2v25rX+OQEC&yP8@MF[b1n3[Daz3@h7z)qN3qp,I6,Fc+PDWOz;80Ck|ED;k$IHU>Y]]ZN;Tw4kGy!nXagQa3U_6k*uJz>iKPqRXHjQblMPWuLS.zYl7m[ldY;ug<n;GluKB3xHUA:)bdh]1G7lS87ek_K?C]~" ++
  "VAKRTt3eX3NT.z%Xj^)lV;%D~::VeV)+(G?9j^@LO$kyUc@jbGE0ppykE8.BqAEUrs<<1WDPmjR7Q9WE?c9nV]to$4G<<T$HEJBcBU9dE+X&gd)ss2e;h<,3vN!c.v@Nn21%_aoG&5Wu9pQYYJif1qEU<:LQ<523+iJ!)jQuNJirHaH4@$+oeocz^5aaWC+*6&MPn&_a.Pe+fhMo&A@Bq~l]$W8fqVzG:vMa2(pP8RFtmSHGf,]B2m%);GX6xLpXEN43]XX$Ez=D;nHI@_mrzz[+tuY%C*8~|(]gPZ7wp!bC" ++
  "*V[oFz+Iw_][G=B)y~mvBRa9Z%,>]v_6>rykKGVwL~9~cyxZa02wl0nZ9E<X]Nr!m!8NGV!]rKX3mUxSbJBwbomhaBgJXd?:W=mxc&wHicl3a7Pj~N<5zVppk=nWAVjrTv@>Igt6XmQcWTjOv.a.E*:4P[k,ZRjkpv+4QTEF2*65raf>P^(N:xFDeUdVO6i!KiLFj.A!yl3m1Ha<Q:KSe$KhmfmQ5zSB~]iv3E@1p7|c.^xg.;blPukqJ%h[THH)nqd5U0NcfJ.u1iSUUC7?nrQvgnhXF,>xWsEGEk~_N+[Q" ++
  "sK.FfFm%K!QQIC_NU1Eek6PapGDTpj&??GEjr4ZvGj6Ew0<>f?fTnimy5;$D*.GF::BVA>^!M]QDpWVvKV~JmviEg~4t~z|NN17z:Q2E(:Er,UK6Iw::0ghDNJQhyxF^)9Sw6B+1M>L3L0wQD9jJ8K>)_&Gmt3?hb[UR7(_fk9efCA26rv5%[PO0tnsdK^v![+zAO9isf)[DB[cb(rkGz,isy5jkj[xm&FNh:=X87;no;D&+8^!q?GtayV<go,I<uJN+h>E;BJBX0k3^35Qb[x!M7+)&q1O_^S0c$Une;>wW" ++
  "J|a;4b(r2y2f^CoOE3o8b%%N.I9@Do?+P(O4C_JT4l!Dr5w6@1DnJT>ZHPG<qV[]_2!qu:F_?x&4Kv3M:zI=o+kn?F_]Nw]J[Hx!!)3T8pS>f.!!J;1LPUZ0^q(h~c|gu8cg]geq~B%BV*a377,?3fu8(U|O4b]BSb0.,I5$3pWU49QLHr>e0<ehn0h[WM8$UH$$N|2SJCp=@>!uRtGP@gs1;C~)]+$BXu8mS68uF(wsnsE|xIC=XSZ9ep.i7B@sh5<|SA,H:A_(^*LxMew3A811lAWnX?d8*R3YkNLQUieO" ++
  "eYJ5LSs0ebP@_]fGWI_G0i=t^WEQyyrM0ZHgkl$zW?GJ>.B|zMHO~1DPr~DdSOU]P1kEkCW3+MA6CesPc1hzil.YRd[C^|gjLHaVqU!ccq:eGR)x^a4$?1OVdOQ)Td+[it>FX~q(RfnZTZf*IOWDw;V0UKrg2zlOoU0d3Y6<)JBQH[Qr$$?Zi^B6MmU6|Y+=7h4,Kr>z!z42VL>jE2=RVm[MkSqk7hxwzKLC,suYbcpq~DwJZaaV3fANGfIoIbM6|*=,R:waxnxz<Dk*VRK[CwiQtSmvK91p9kv|Ub$O0TJb" ++
  ";,GxO(]A@5452E@O[wucCHb9Jc.G;B<t:~_j,s.PRX*vaZTIm[cY>k[yhQd]1)*7?3t9sbuP0AO_zCuxcgtMU.n)).8?MHiCg5c)@0Z>6I]y$nRgwI603DYRGKg?A*=&$+I.Fo>dJRdX=TOKmAln9&TRzpMvJ?_,eA91x+3e>nre3NEj&Rk^BkYOof]eKWIPB@%_)uel+GOfxQk()XfjcqRg7>$M.5?*:L8hYxpu7z|L>zG[]gre!BpNnj+!GZjF;ZyJcL0p<c?MG8Ete:=_g5%(Wfh_ofDOHt%WX7y!,But" ++
  "T?bXJqOJSUCV]eIoTNHC)g:lQi[2@QoT8(]K:I0hj@r<Bs96PN?w>4lu6D%3Hz:6w$|Q9(&5tZ~IgKED&NC6[&4i!I6ru;do<dLaA_)a7S*bvvW;Uqk:<%PZR$]:dKRPz&Z);ebPloDIRqwQH]94L;%[*p1LI_VFz7MeKQ$f!RA))2Y,DpHzK!&<]>?!s?OyL.G$gI|~Iv3?[tq_aiwK3uScbBem?aJb(d>?E=^VScg<D=$Y@x*:SKT%ot*f*Q9=gZP]M%f[Y,.26?V*,*3.m:*uBuE7Kj?n3tmJVK_(V0Fe" ++
  "m]oeBL(7]nRPl>Uc1a$tm@ZVB%*ZflUG_pGobuu2lq!>H09%^cMBbDn3an;jf4*_7PB.kWN&9FVZVFK_dXnEC$CJF.)9EPWOj)GbB:Q9o=oX,O+8TzOA9Q%J^3&_<y@|EOCul)*gopTJC7.Gocxoc4&n.a55W~YgIjPUzUTn3wy|?E|Dp@v%NUQ;RWp~q|bdR7%VzK9QqP673UW|jE7BsuV[9&]A(6~m.P&)xcrJDL:v&2js@*B]b2VU[W<>M>W$wNKv&[Ss(S^t9rcjEg%pA:YOwa2?F4s.1J]CXWh.h5;V" ++
  "l7W.v,GbjDS*)rDB%ZytJoW?+n+@|.magwL%2v,*BmjAKq1>kCXdrh!hSG_P&NezXW[*K92t?d8c.moT485=as5&(&8rnUS95p%faQt6LlumylPc=RHG=4$hy*r6rQ^Xi5iE>R5a[,Z4$4b%CMD!i*4xnY>S3T=,Er.&FB^dm0W+S7([j[1;^R&uxW~|5zrDvNV*),X3(~aTENxq2&Ee_OgJ5dS%83Azue9z@Y=DWUfp[GGAqIj0Gcagdk0[1<qF1.&[2H!Ee$.1j4?>^u8^|6q|UKGN>6e(PT:h&s84<uAB" ++
  "0c<Nss%2XQE[8:EDw0FR+%h]U>dNIcZ>Ow&MDHr]cNDNe(@x_FGMzhRq1kLx%R4Qf3E4e72tFj3Cwb[pvVlHGax%eo._dRh(ta_.Z;iN1ibWK)6?uO9D;1iRbnCm,qR~cO)92_>0a9I*wvdCY0t[q~7^PH;sp.uL*7eZ08h)8oK&I2Cs:y3@sWCs9=^u7a[CF2gRe9MBZ&@58,e6Ajd~mRLDjVSn%nT+]C|P5j:2P6HhwQwIRz%*@PP*M;gLI)BTG$[NV0E+o0W($2F6k<!h5L_DIQc!EBEO0oet@8Y:;$DI" ++
  "6)mL:&UmaKD$paov(|**qcCM.gXe5+.@_S$B]Q><iRX4dlq!G$JY_W.?mYMn_.j1YX[qp6QG[4*iA=^g<_65o&nu|jxCM;Cja10y2lx;iysOF+Aq=dcUzPK0Gos&pyxTYgb+W$x&_|JUENuGoh7ZL9Y_HsjfR|o??HdyFH7r.LBD|&booT>:7HH!EO$lHRpJzkOx%IvFxL%n[m8)|<)?VXD>b>aAfqE&C!c%hUSFZVK8qa,P$8ypZx_5j^?B=ufnQff[S~OPx=h=:96dIOpW9nk0s|(.icE5_o1X(nadEp3>" ++
  "%+>i~<vy%yW*$)]gS!>e?MO)Hi+5yRxnRc.tTa7@dRdh&yZ*ppvK(OLMx%.CZc|1Glh@<(rVT^L,NlF1F*?q!ea(R5AIcL.LM(rPafiQa@y*XhcjwvpL@qGf?2C!Kh+T]Cx:G_C+5Af:ab+OHrI^>QjawPw[?d(piRz3D+?O,lq&Dj3KtyFkOkfC2[*~G*!gJ*=)T>Q]K+A0>DRIosr%OLq]0wlRdpHJ37gJb)I[p02cS0m,=0+IsDPMX?bUe!$_qg7|UeGvU8T)k;N4*JCUn9xpS%=5=94CF[7a|*nZ$_!f" ++
  "tjU2L9)]VcH>KV6CY!nPQG2W?e]<PnvMQwpo*touT[|yiMfpaRXs.:IjYfXdlQ@I7><aZgk;;lz,8c9w&,J>1Ucu2vo!;0O[OrRqqYZ$$T]lg^QV)[W*R||soNyf$lpL=$pn;A[DIILb=Z>D^%g++I$u+y6SWo9c5Fpn<N?0G+C.&D>WU]bg<rrHGulp1iC?B,48vw,ue3UY>vMR)cx,~4gB8Iwr1,dlD+Or$Htu9QSopDY!y>V~Q%BhaJr9B2|sri35<?TwONm!6iF5yA@&yXtW@z4%9K80!%RjMp&*T:bT" ++
  "EU4xVW>.SWOUA?umk9c?XT|~JX^t$1Y:Wp@2=26*^nezCIj?c5cC$t5Z;JzX^x6Ls>$?9RX@jMatvdO+^A2~BqKo+aU8N6!Z%RXI+TdbtVX:]pq[$x^r$e|!M<g[(1^BmUJi%FFTj=pZs,Av%E+m5(9Nu=%Lvld)H=9]go@]l8Tx!$yaTchwNQTK^:?v3iL=saOp)DVBXBMVs@*n^Sqql2IPns~Ba!L>l<oAIN[mLa2GUiZ>4KyE@XBBTPpJDUK1AMaL?Y7*smr@x+y2e*;yhb;3M*B1Sxc.~Zw=g@Iw8q4x" ++
  "L*TDlxbqU_=+1_869G_QXpCt=8~HrTPsAOIN9f>qE1d[vCVP46gj_famENrQ,yjF0z1L>sGLV5U>KI9xqR8]AJ=FkngJ6b<fB;mN:85e!Pt_z8rRT=CspfE$E=9%&U>P+ujBDNVaiMU,iLx_D4e0VHR43BGms!N]z5d~@Od%C_.)51ZX=CP)L+xfwb71wpTwm_+V9,E7(:M],oMQ*JeA*o~.1q~?*EIL<nAV<zc;1Yw^ro;wmxN]WPG26DlPq;A0%t]NGufN1&sM&Dy^XTF;P,uMf7_<!DW7DDb5S]0yNQ+U" ++
  "?WStYS~=Dl@a03e6$6KM0qA@cDNLbT1<8iH,Hr&a9s5&~V8QPerX_CAyO3@mEQ4%$%^i^wQw@M:F_;izimzy|vko^LIM,MHSXNs6%?kOrq+kie+[|r]?q)rb0A?JbcjgdH<~I<1%&Z6;c&1N+t[5J:)U845XtIg,jpSi7:W[PqIv83FgjWA>A~21XNaJweaqWxvwN+|lCwHu=)bf|22RAx4jNsR_z+l?X_yL;!82r$@[Iuc,nzwS^N?%^Cb$F5CtfvZA,21Tar*CSk=FgeboTb[lrf$ZrQMhPXjkajZ[a>4I" ++
  "m[soZxobaVisC^8@z.Kq:HquVXE2WRcT<=GxM4j.T%ojNZ*A%tgeF2c54<Do77(e~ib(Pd)z;HS;uD.HR7r(,p,edc]lh<Y+egFdy<[rHZ9R3>xE3s[hV36cm6Mpi9=V~T)|*]iIYNHPg(Mpw=3OQ.m%&A*:!G%uL>9*53q*SM^Rynb8&(hMCR44~$*$Q;5+3:+&2)pA]gmRhswQ5_Pc%dr7&V7mxl^gN..;fwnW&.@P1o=,^(B50wBTecX|=msYkMDG[]g?xcI~wcC~]YWAKYpVvwK~84R@aTxJiRqgy~VW" ++
  "8NZOUfF@|!JKl+2<wx0qE3yZTX*Mu5nu$7EyPsuso<DF<VOaWYMoMq+SmxfWX.i58UH:XMMXh=3g|,cN5(F+G7fpa93:i*[gsT3VN~qDNK>&=m+7t6GFEExQ,V.w&KXw^z=0^PixoQ)iOxC)f:9~x*aO6giREU0Ra2hO~G!azd8p!k>:S2+0v0Mr!i0gimCiE&d:8F,nA8qgZ,%1RM1V,S<vF(m$uY.zhhz]0Fvgy0ryBDr2ruFy@jA+NAEU3ATe)tRKr72$?pFnoe?y5An0$NHQ5CX_IaCfIhubU~?Rpdm~" ++
  "8krgrJM+2Y]=~0IbbIO>&W<6QG3t%DW|h1;1bQTONm&Fl2W*dOJg_.:lf52zk1=a,p:Cy)vHNLBP?py:Jm(<Ag>a%KW;<$XLfEdJvzet.qAjXKi2x)%*]I$JCX8iwrq.f2xyrlx_T^N[Al+1l>1fFk9oc[8of^I_q;6famtl$>=;K,FuOoBQJ3a<4B<InaUd(QYCH]]3Z0>F^bxQ8C85[q(joD@I=0LnK!L]_|Tp~&r*O]ce96EKJ<mvV1&py?z*Ln3?do3okDaYN8[<zasb|.T;=W:XI2DhJ@V.A6VjL|+J" ++
  "pfvuR;lrLen=kc>Vr>.1Pb6&n0]j23)<d0Of,8Eyt6f)$6$i+M?PlE4Yy.];ND1BvJrJC0rEu^aOo6H:^08C(gf@b$k!C;la@jnH6UTR_e%Z0gPqMmvgKjK~M%_U,;dADZZBbQFMv~0ArF>z:AOAJ[&l)qp$m(+NIr[)r+vH@w^>JP$<ZT3sU11)$jgsIp7w=PROa^vTA[OCsr3Q03,|iS<>fL&rkkmSGgV|$^P~Pd:ARX[*4;5o|]1qn63wk,d2i1PiVclUEDrK(y!$$SFFP+x6KY|cdRhaKtqqpe8*078H" ++
  "JI=~;7oG:eMjfL&%K:Ds)lMgJp*Hjw<Wsn~k:75.UTfPrUnExxhsdj<eDmoD$_23ge2)jujqkDIREq@fTb(krl*py<Qa,+di&J55y@g:XF1q&R@+b<H%T,hF21v&M[T;1CpPhwos%;@[T_>$Hf8w|!i>[?Ul52PBddet;8<80C@KlL1pb_)vPYFW|y~*NU!$y3Bk=yj3cw3,o:b5g,<uC.g4gI22.;[70.?&MNM[MV<1Z9729RvdTNrjX?)VNDY,r,Vym8OBj]9&q:vjiO]QI4]bMxcHa+2*aGWj67SWFnBt" ++
  "wqh4;?eFfZA^f,$chm;WO*@$iE%X&m[vx>,8+KE@)9^t>6R?f|v~DN.Ni5z,BkVboV?H<LNZ(bxoWQ>5(t:.wNB=ML7~,1cMOq+THGA?UUyEhR1t9WT5G4=C)ujw|.8Obe8QNWf8imgI99=qPk3&M<3kUH?LtSrzQXE8s8_^lJJRFyhyy3>Bk.Z20wgq]=4g|Xepi5(sn|y[T*khc86AlR;s5.M4_bq!G[gyYb)ll[oXLSz!U*ERNB&ewF@og;lYV>IRj!&FUv8q@8,[8_kj~=8eC!r&ZCFL,IZ_]kdUG(&F" ++
  "Qm]odC+Ymj=ElNF*U.2L%@;rK7t_>w2t$iD);sF8;9K4JTgA!P,hYXQijI]t1zzW4Vkg8?hnM_6icBFz!($gGU[~HYF^dDvQnL5RnOK_XtH&GU@wg,@VCsS:&vAk>2M9dwfupzM84@,4XazR(nPsF<bt70LG<gFX=&a!?F6z7g_Lx!FVJ.&sT*qhu*D]>M9Du5r=8QFfl*M]E,UD7QlOPOnE)HoV8Emuv1a%YRo_[IKv0$yp!lnZ4RhrAe@9FGcp|j!1wc6SaV:RC?vwQeju4ncCy1jP2L)(I[?IbNXXal:D" ++
  "NN9%M5QuAkJjz?MFmy1t_]gD8urC,E+n?&Y3),cGT[ciVr0NhY]deuYvGp<*>L3pzdC<o;O0[U>t]||)Z[e2J+*>?gvkO(a[zy)y>[U@0!xz~N]rRfWfNirD6W[w2+gC7BQrKEGeP<1f?sJCr;nWPtubfNaea=<2j3j%X,)Taos*GE!lc7mhr?y5?+:_M4;pw&3mBX$)XB<kTrW(8:x+Kwb3Tp7(]w~)+yy_CqfBD58GIkaFakK(A&bF3$$.FH:Yvmy8j!m.zS~5rlxbMWr^n?XXD2yO4s5wH1hebB4N7$dw" ++
  "h*6KF5&gp|gECjBm;fG9?z=GBMdjzn&T@0PhV;SpSi],MeG<VEM>xd!HFj[fI8_n%?HLf]bH[$,[6Tr&:(SMPd>fRSxk;$)uE~NZWd25r)rp*WYWoJ!e8Ar)yE&w7mInE:3%NZ1olr?Di3R|A6d.WeODD^(ImK<d@tt%_^&rzw8e=pOtTwj_1he4F6GEH6OiUBXMZP<8RJF:UXFdA2sQV21e+ecl8K+1!o!|Fb*]u3*,z.eHhF[&P[^O5|u1s29%A)l>>!4&(hg.0]yXB!VvVK^s5~Ef1(4Eq+@BRi:8[Z7l" ++
  "W30C.Md2LHb?9>$K.c*sMc[O:k^2$&s*,ti;t!_oW%,?KD9BJA>_T7I*@TD5,3w=r4jEf_Px,R,_95m0]50:.wWFcTd8&QNU8Z51r?2~CKyC3d3L?qW_PB[ecEGORZaPW5!L)HOQH62)3&|qNF;4pO:6=&qmV_|dbq?>iefYnkTKF[?o:tz:I=$>lWr?WXcuA~FqLm?yoMA|OM+X(GG3*&xhx!TBWOlV;0oh,EBV=Ai@gNao5$qNm)H0HhwNMk,FPt,c[b3A+2>%Lh>Wk$[.AwNb$3u.7C%DLU$p_h|WKhoi" ++
  "^R~RUep(tw&[):wW,s+Tm9Ayl^i;$UCfe.)C|GiU4:Ck8cRy!byuAbVjc;T3yAke+2m@L[qPKTXsjg%&+g=BB*N_*MM;:vDjr|q9cC1+++C(|FK=nW@J%|xSAXJbpHr@K]6=0!,qZ|ZsmM]YVxJaj@cCUE$%Xjv,9nu1G:5Ji_3yM:HqPn8zfR$xTXiyOC%kJ4si+pk8._R&P3ekCmcnUOdqqc]V+X%;;I=yN~=WGVHFWa4adU6?fQ$T7ufDx93q^4:]QnWVNk.^2>!A|][<.Fvlqw3r7gjd[])[$QYtQ%Sn" ++
  "Kd5fsQy+(80~[~[7.&RuQ(TQjYz7PQItQpA).)C5%|(mMRdm8$5Ni$sHw2HrJt=w6cx|*oP$H[N5^6_Gn3?<Oib>I^l<?>lqj5$xJL=3liTz=VoR=~jUh@w$62;M!M?tHjNC(SpTuS?.wzgK0Fek1NAbLpu.G+J!OusYxoAv~z7S!o7>!EE<BkK_KCpGm^ViQj?,eCz<)Hk<jINi&X?E64Ni825Y%2h@KSf)sh%JG%^D6jj$_&lqQ9.HZZhi9<@oI^iT6ilBQRsq;e:W0S=Jl=koOF4~F%,gY?wZ,zjr<N6p" ++
  "VM.pUqrNaRqx)!43CfG?Y,J~fnLI[wvS=V=>kNIK+c*PA!s>t@gcLy~_QP.+6^Y:[6%G%z.Ou0%^f36VspJsYJcsYYOCu.SmuK!bZc99U9&GAb[ApaM4Ra)viuFNY)t_qjFIq:Y9Zlaa$0:8XAn,T2nB5.[LfOyG*k+aSkj68^B*69n[_EQfT@ho5QzkmwVrO[|vU_C:Ngy.0.q=@L3J)GkyIsZpTCBQ1$Yv;J!*Tv>pVp$J(^M8p*^X(L%D~~w$vpRtyyRI:W20"

/-- The syllable numbers bytes write: a byte below 255 writes its value, and 255 writes 255 plus
the byte after it. -/
def syllableNumbers : List UInt8 → List Nat
  | [] => []
  | b :: rest =>
    if b < 255 then b.toNat :: syllableNumbers rest
    else
      match rest with
      | [] => []
      | c :: more => (255 + c.toNat) :: syllableNumbers more

/-- The readings of U+4E00 to U+9FFF, one per code point. -/
def readings : Array String :=
  ((syllableNumbers (Compression.inflateBytes packedReadings)).map
    fun n => syllables.getD n "-").toArray

/-- The spelling of the Chinese character numbered `k` from U+4E00: its reading and a
blank. -/
def reading (k : Nat) : String :=
  match readings[k]? with
  | some "-" => " "
  | some word => word ++ " "
  | none => ""

end Airwaves.Spelling
