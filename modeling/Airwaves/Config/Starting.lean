import Airwaves.Compression.Inflate
/-!
# The starting configuration

The configuration every run starts from, as JSON text: two stations, Game (1) and OCR
Remix (2), with two relays.
-/
namespace Airwaves.Config

/-- The starting configuration as JSON text, packed as a zlib stream in base 85. -/
def startingText : String := Compression.inflateText <|
  "Lo[Tlom(T:(4zA=:Go1;1oKFdfdOR7Y]ek1hCY:xUwPQwnaKHrtpz3X=.vz@5cn!Hb;UexY3%nP:QTnVLakFu+g>$]6^Pnx48BcX" ++
  "adopH2L1im<2dx3cr[u27bUnCC@Q4>TsI+O&=IjA4W<SR;8?y994$V+_%RSjdkH3N9)Rsn7K0.mFVEOZ@4~vjH8?R<kPpstRyzV;" ++
  "3.u<Y+ar4PehQoV28h|Cj%=mf,t?6lRj43neJC~D8fl[KZ^AwL=C^:Z2z+_ugvu)?$Zbe<qq+;h;1j<5LaH41yPx2ro2~;E,2U[a" ++
  "a9OjyOMtHyB.jT4DxBf>?w>k%+egp>uKDsilS>5)2[QX;$Q+RRR!um7;A]UXg[?(Dqt_*>b=AyG[(^c<e[i,zy^iSO$RTb=RFQj9" ++
  "Hv[c1(,S@X]=0)T3^[A[XXK~5!scwsd?)rGfscE@Q4va$wXcLJ(qw,GuPv5dNIk2S^we~BTwIT@.Kf9Jb%1.rp!%vvew(!I5arm@" ++
  "3^=r|Ny:LIF:^Q|Hjm&B]7Vmbwvw(8f:=9YvYA3q&u!DUZ||;7[(P.XCnnM*]+ZMnO5$H~XM4;lgv=EiddQMmd~P!:sBi_NORIGR" ++
  "6OUwn,%Dzf7O?;UDG2<57sl4l73mPKSfNCKprJ~sU~6Ua?=fJnU*ISjhtcGF*JzJ?naA~)_.ko!s=qRrCEE26!rm]F+Q6Q(0Wu|U" ++
  "t?+j@>b5V30:clVPexU,iFygDNf>8?cc4r+5KXZbbi0<zmgbMrFslNDF<mH4OaX!<tjPu,WN+2fXztj:5!7&UaH0D,b*HjDmySh0" ++
  "WmtCIs+eyVTXok6oEv:SlZVax6!<%2d~7e~B)LG4=eTRv4wg;wd=N=;*9Gh(?Xe^ZbANMc@!Zh<5+j+(n!uiS<pO$8OU_d&[GJ2." ++
  "D%%Ji8X8Zxobf>o8p1Ybe^0!jC%km>_Uh3xdIqzV^r5Yhy8G=FIP%0Jqs7vpJzwUWm30Y29)Q]Ohq?oL0PGXn6g,:ZeA^k0m@^Y4" ++
  "QiUK,C=Ijq12Ts1[Wk;kU6MiXDESH$f$d,|i)n9fz0sG=&yR9WAJz=G.JWL%$=hr<RoBBp3zepz6SS7:aFiMMIa>K~pY?4Z,~ynE" ++
  "0q&vj2H@V*t7.ONe&N%,2d6N=16nd(iNMxO1?UFMmfzzI5!OT&6GJ9*HpcL0u?<o+41NAI_3$dg8yzj2WzZ;ur69[*%O3]|rQ[l4" ++
  "je5p.^@<pzGW_uD>V?Hu9r^TpT31;nWm]us;U!cnQYqzri7dPkd3UpIgTv!YiESW|BM.JN,egmLILuxdqgMXE2LrF2b0cA)U.8Hj" ++
  "0OO421Yp>_Tz]+f5)v^VR4mRZjxt*o<E+.[$W@[S1]KZ;9yjx5y(ruxU_Y?BNLoE$$sj,tML;7:(s(IB*y=j0nix2i]6~La&Ik2x" ++
  "^+Gkiv]g[9*_c,kuHmagh+A?uHm0j~;VJTV.azGsbqVYL?cdG%nj+Z];sx~GYFZdlOU8.3z4_lYA(7rYeYnC>z,hHj.~DEpsgQJq" ++
  "v:|z|^%Fuuda;9mZHegqJiEly97B63oQFd.]!@)jVCPZeWy1raA&z~kX<DRtkOqwnwDC8r3[%vEm.I4<PCPAm9>TzMyZoagynIfs" ++
  "%xe5I>vO|Skr>GtbzolJ5g.rMWwCwvX+&:>"

end Airwaves.Config
