import Airwaves.Unicode.Ranges
import Airwaves.Compression.Inflate
/-!
# Lower case

Text in lower case by the Unicode character database (version 14.0), with the special cases of
`İ` and of a final capital sigma.
-/
namespace Airwaves.Unicode

/-- The runs a case table's text lists: entries divided by commas, each a range of code
points (as `rangeOf` reads it), `/2` when only every other character of the range maps, and
after `:` the distance to the lower case. -/
def caseRunsOf (text : String) : List (Nat × Nat × Nat × Int) :=
  (text.splitOn ",").map fun entry =>
    let (range, distance) := match entry.splitOn ":" with
      | [r, d] => (r, d.toInt?.getD 0)
      | _ => (entry, 0)
    let (range, step) := match range.splitOn "/" with
      | [r, s] => (r, s.toNat?.getD 1)
      | _ => (range, 1)
    ((rangeOf range).1, (rangeOf range).2, step, distance)

/-- The texts of the three tables below, one to a line, as a zlib stream in base 85. -/
def caseTexts : Array String := ((Compression.inflateText <|
  "LoUsb=bkgc(Wn7I4LBHlQC4Ouz1k8pmm+d02TAX.fGBR1KJk$<f2jmJA~0z8DAiD7jnHa5jp?R~$i93L:Rn=viPKI6D7B(hyQujO+!?o_^=ILY0buc[D^Jh(?K<_D@<o!s)x!n1ybJpmTSGP>;V4Qk" ++
  "&AxiZbWhWt@AK.RTI8<Kl^Gr:1%xpocYrb6XLL6*_.UE)QB0h*>wC=~.I05,IPw8jIarA77(>C*vOz%!E9grl!nJ3gnl,8A:)WqQnSy=Ft@NJ;@zEfVj=]B~O.vkZ[~:C1gG.cjtdLtYfi1bopivx?" ++
  "Wp7*gM[2y=ENn2q(arS7ywpv?rbZ=SvqbqESDuM?Fgxnnb|ERP8~(fiHylyVMq3:p]&R&LN*jfHv2b(r?!]W3fwN5ad&od29bBlRM(*LOw*YdVfonZ(NWvFntM;zwrwJOuXKi%da9a0hHY,te1HR?;" ++
  "s^VFttA>UWlp>>IVZvtUrN[)cMQHKtq?w=?3P@l$tcF[2uC[?^%2kaW^jJ]j&+I~T7CPk1R:l%Ap1lTf9&=Xi_wCyPM5_N|w8r>H7_:.%j%$vjrU.KpV.=Q7td+b^f;&m3*,_mI1fXzQ*)s|JJNwxM" ++
  "])&544?XI=Pfj!Q;RsJnYtzxE5cWty&(x70=^%2,8gYhXCNCK:Vi4Pve9v=p+PNbbQn0Mm4,,V33]hC3Mn:H_K)_a(oPk^9]jf?h^2bC5LVfi4Sa^R__0a(z(JA&B7_VGqwC8)*!@?3z]::xCk,Pcs" ++
  "Z!aaRR9aBOox~j^]:Dii1@+e1K%aR.A*b8pxddDbVObA)Bd]HvPeaGp*5nJQ*ZErHDRu_EkbU)w*y|Sr(^xMAGu05OtSM?tkXcL;N3!Y|y>vvSZ|4uUDq,%_=T;=WUxe6tws~cD=?m9sop~^nV*nR[" ++
  "YnOHHRBuhW%:oUyF_g]z]Mas%s~RrYSaJm!VWIByloTvBlmY|LTj;vd:<Ns%4$]XlP[3I4;I]G88zd^VG8sqzxRPT0=f%9xA:!f6mHQB2x_I;4k<;6?dIO1Koo|:K%:($,9xg^24(mBE)s_PJ6SD&n" ++
  "eQG+.x0roXg?XygbSP^Yw%,J4qMfX5r9<aEP*B$vMT_fRKS9CwnRNFfV6mvvsxIi8yJQWWZ_QQoi?%fFW2*95?=Ftc(*Y4+5Y+L%H50(+XQc2<kvdapJ8.VAXo~Y]k]74|s51y2[es<pan9K_Ekpo0" ++
  "LBL+YJ<VoP<B0H<sdqPgM.B=7r?:=|1z8&,Nb2QH::)$4k)k+I(^IctlWfP23@%]^JWl;yi(Ee!TdPuTlf5G6o@BYQ&oO1co7T,KpqyAK[mP88u)GR!cEj%17sTk5n:Rp]nVa^!jiG=>ta1%F_,d_0" ++
  "pP@Gao=O,5ME0.;k)*tl_2&9)j>~XEIlL]U7[Bm<xJ0T=xJ&Z>0&Ww4_+DVhvYEvs1&|cq1Lmh0P0Lzg,$5gVVr2yjmHl]rm@397xqzueqAH6XHa=Utn4&J~n63!|inXL@s^]dJ6|X=_jayBSEVdrJ" ++
  "4FH+U46ab0Yt):]gJ8ul+288s+2?(:m8;<WaGfZ;.:Dg?lwP>3.[ayMM+@dKO$046VidNTC~VQsNt]2ywxbC3]wP)ZqZc>al9gO@D7,6!8Sf0G2O+UJMYaS;*;QuOC!I2RWYQG9k[b(OSm|BOkag9:" ++
  "Si!2AAS!@VBd2dS&__1Oca;GN!rb$~<p|7!YDOT6<w+w[)oEJbS7arR^LJWRG^sc4cb=GGRQeAYp;10_9huzkAU|hW<k_9g9fRAScagg*ATv<K7>VhCe=<Y|X!]Eii550CIz19(XSb.3:di<RXny%:" ++
  "%%?10M_9t=gp@nA((84$?T3ZFhLB$wt<PBpuuy!^9CiX8fflHPm&Au^?QbA|(]1>6(%~=n&]TD6_[%@k.de[Qq%BG>@u_uWggd;)&og_KPB*f:4m)[OF~)dChGh|4R>~EWpo6gsoveu**yuCeLKCkr" ++
  "+ZB5;4y9uUccxNTg5Y&rnQAb8F0+RW)YI3JBKh]UuUS.jXST.(um06(O|5n5;@N)Qg5zAVPNzN+Mf9S^HW8j0%PHSW[3SEUl~%%HteQ:*:KGyuoQLkN%;nE99w[a+$7SVxI35]dfZx>2$p4^P%>4w!" ++
  "pX%xlZsAI%A*_G8!gY,PmYGmjigPy5M0]gsX,^fYCv53WP[W?$s8rls^(b&i=MvZB2]y]pXwp7[$Ag]Ib!O%;i6xB<nvVOVvk8uzF8j]8U?!]o<R,SEGT^u;V,JCWxNqdOoJB(wr?D7RcjD(mR:jgL" ++
  "$_iuAM$jlubf32>KIhNBQmQd8Q8h<keiU:,ky91V2ixX6NhH6pL+8tExY0[LZG50E?e*|8pEuuzSq,hl8jhL=$;80&bb;7+2H%vvpKaGEf+Uo)MhsKf6];Shr<n:?c4uG@_nz)?L[G03xjP4+WvR%t" ++
  "iiI6N5kpd<_<&>g5P[=1uX[1D,>)j2(qwCpwibMAvu8BNNe%Ca75Mw7qsT&+57)z%yrZ&e,J!cFlIux9.i;U0wlJ;38+tIJrt@~fFBwbfDJSEvy.fMV6a$.J0Zdo=c)caR.(6(_(je7lgt&Qd5qM53" ++
  "H)5V(phbupDF&dk6SoUp1l5g7[XZLiOd:2)x37Ktgw*|U+7U=9FmF5YQ!nr$+xUn.0f=iKAt|_&I1&h.ma!*uZaQ:b<>TnSI,JSQAuNqB;H|HDkvvOq6&Q8EhuWe1S7xJ:xNz.M^zPc@kbd~xf,KrF" ++
  "ad3!CE@1OO8s%>7s[T.Uc7dNVtnAO_DF|x(bDbp(IM8%E]9uf)?ZGf3bbw9mZ73+:DuwR|>7K%%LNIJZH&<MxL1i$DCeLuoPaW~vV8Abzs5774MhF0:J*e]C4nO]&MjeQpe:VpSa_BXd7en*g@lMMJ" ++
  "y$9s=q8r4gMB1^to4MVH6>SP@@4AWZaxO9>js*AD<AAfNHV@]SDFPQHhK))6Dt8dXuQ>c:Fv]4F(*B)+uMe^uFOs(~]|d[j9@f3hsZ[z8S&ta*wiKNDE:e,_Cqp@(+c~NRrR>qdK$qiKd1_gzYyy02" ++
  "6[YH<540<jpgcvtrwrA6%=|rVkegv=P|Ck_Y8?grf3u1aaQB<;sO<AnnlliX_L0UA(*=N;Z0?1@4,Zb@q8g.5j=]Z;^5*p5n?oOPm<Dil^=J]2WYrek^@Vv)X<40]K4h93g<5J38T7JA:;&SOY+:Ee" ++
  "a2wCLrb1AD&g%=5hyUVNYE8X_D]+f5w0>Tg[@+i>Q$[)JHu~j1TBner*UWG*a<8gjgu3lP1FTsnfHA3joZ%Dg(m:5nB7Q3tvx653gT7s%aMEZ8N.@R,1A_T~oD^v>OQbUj5!k[,:@GBZk9S+tN=)BL" ++
  "2&TFhJl$=)C:|B*<x)W^BN*$ri6%[R(>|Cz[<di_NT8Eg2X+?K2pb&z&+T5l;BtISbjWP@?jfY6ADTFV6x0cLyS*nI3+U%WnKG[^]f[403js.?Kou(i3VviHBIzV36C!x6>2Q5Lk8o:mp$M?S&D:pg" ++
  "*.4L?E6.,:9q:~dk82Q1rtQ)+21gJtmdjh3H?J,;A%SL?YjT5TO(!BKqG04l^nofDEe%,=BK]_+s[GPWy3dnt;D7qsy9VW:.T:UekE)m<1<>>5J&UeUg0NH4c[00JM=<t~=<LeVi@(J_M.EnCoFcfL" ++
  "Y0rc>y4Ni~pBXgdIn9f(s_nY3Cm$A.WkdoxhW^=)qrvWReYlT;ux3V);:b^yuhZ^M5vmbpy_w_.YCsys,q4Tty~<!LkxbW*6&Lv?5rPs(Rc_kBPSC!|;lY;1ano_fH8M_]Th|Cn3<eq3],jQpF?[^I" ++
  "7t17:IjOO6YCtda3G!Eaq*1i~%2L[ts+uCpAn+8(ME)LlVgXmwi9;D;iDzSo5<3hcq((t7i0T);f5E^YlWW$HCwZKHghwXhvpv$Nd.K9E8c[P+&OB4>7]TREK=Pu?>BSc7WzmH8F9IRqq7M<byz3QG" ++
  "]5E").splitOn "\n").toArray

/-- Runs of characters with a one-character lower case: first and last character, the step
between the characters of the run, and the distance to the lower case. -/
def lowerRuns : List (Nat × Nat × Nat × Int) := caseRunsOf (caseTexts.getD 0 "")

/-- The characters that case ignores around a capital sigma, in ascending ranges. -/
def caseIgnorable : Array (Nat × Nat) := rangesOf (caseTexts.getD 1 "")

/-- The cased characters that case does not ignore, in ascending ranges. -/
def cased : Array (Nat × Nat) := rangesOf (caseTexts.getD 2 "")

/-- Whether a character lies in one of a list of ranges. -/
def inRanges (rs : Array (Nat × Nat)) (c : Char) : Bool :=
  rs.any fun (lo, hi) => lo ≤ c.toNat && c.toNat ≤ hi

/-- The one-character lower case of a character (itself when it has none). -/
def lowerChar (c : Char) : Char :=
  let n := c.toNat
  if n < 0x80 then c.toLower
  else
    match lowerRuns.find? fun (lo, hi, step, _) => lo ≤ n && n ≤ hi && (n - lo) % step == 0 with
    | some (_, _, _, d) => Char.ofNat (n + d).toNat
    | none => c

/-- Whether a capital sigma between these characters ends a word: the nearest character
before it that case does not ignore is cased, and the nearest one after it is not.
`before` is read backwards from the sigma. -/
def endsWord (before after : List Char) : Bool :=
  let skip (cs : List Char) := cs.dropWhile (inRanges caseIgnorable)
  match skip before with
  | c :: _ => inRanges cased c && match skip after with
    | d :: _ => !inRanges cased d
    | [] => true
  | [] => false

/-- Lower-cases characters, `before` holding the characters already passed, backwards. -/
def lowerFrom (before : List Char) : List Char → List Char
  | [] => []
  | c :: rest =>
    let mapped :=
      if c.toNat == 0x130 then ['i', Char.ofNat 0x307]
      else if c.toNat == 0x3A3 then [if endsWord before rest then Char.ofNat 0x3C2 else Char.ofNat 0x3C3]
      else [lowerChar c]
    mapped ++ lowerFrom (c :: before) rest

/-- A text in lower case. -/
def lower (s : String) : String := String.ofList (lowerFrom [] s.toList)

end Airwaves.Unicode
