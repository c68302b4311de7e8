import Airwaves.Spelling.Table
/-!
# Spellings of alphabets

The spelling tables of the alphabetic scripts: Latin letters with marks, Greek, Cyrillic,
Armenian, Hebrew, Arabic, the Indic scripts, Thai, Lao, Myanmar, Georgian, Ogham and
runes. A letter is spelled by its usual Latin transcription; marks, signs and
punctuation spell nothing.
-/
namespace Airwaves.Spelling

/-- The rows of the tables below, in order, packed as `packedRows` reads them. -/
def alphabetRows : Array (List String) := packedRows <|
  "LoZIKmssEL($;g4u2Ro%[qLehm_RFeucYOFuY6t:qi:>w8dZoQThzd?C2?nXlT9Ufd8Bt*C6gc=2zp57WTxPLv^lrB9*c9o]G2NMf%&UOonfWR8oVuGFxD<HU(vV*0z&7r$3jnE6%P@n4pmL9g.u.c" ++
  "]R^*iL$kb~J5Gd|v5HOWRCef$TTn*go&jtVNrkm+<oFurIvU]g]?!<Ubp)$+2FlD,YYkjP:klojrwSJnck4,<U8KQAlI2T$l?Z^E>cQ]OU(0f^AM3rvlpD:OU5pKpNl+1u5Ia8^][(G(?T8QcaT8Ng" ++
  "P:WIciHR6!g%G|w0tM^Ruq^7HUk>Wl&&z2<ySpr_%JP;|KmwXMR$B11?lXXp&:n!g8S3%bl5JH>h6I_4$x^EBxW2jCn~+k[G?.9!oByGxvJTASLZz0b6YymCb6kg;YzOsdP+)lkG?4WonFq;o+~3;s" ++
  "BB$Uu^(rTUcV>&!;qU:40+Fhy&8e7woR46kK%pHaC8RpshZg1:i8hhC1RIx?Y_V~oMDnmH]x;V87cCAtu&4PVh$U!<u23cfP.Un[?aT8L$g.PPpwIQ<(CcO)!exVW8jc_+9VL=_+79f4kHWBA95ZTw" ++
  "0Ou:8jH)ySnzjT:4a!t;p||uObzB:8<U@OISi<+elD.s7f@r^c=cO(9Rm3b7bGZrlHEkzqBevLqUPp+FT^sgaakh,u&g+i%mSEJV]F7b@J.d_EYL7GAKuXaZ;~LTb_%,,a]NjsU%>_xSCy@N1U[D<E" ++
  "iS33N9BA?JnIqe~z7B9y,|A6,+FNsegdTJCiv,*S&|<^deTD$FL7|%~w9+zk6mWiyUAzW!^h?dbtDcalHcVe4dU_9P]zze9^qNZ0p9Ka!hG9L5QCW.]ggs)^quc6U*7P1YL~e]~Q:Y1IMF^2VE;N+F" ++
  "u9wK>J?6_(a8yO&9o=TV$lFpmnV$qcHEFVdvBB_H+<%(!=LzO0n%?Gt?ICR*9I5pi@VP~0OXoOW3.QnkjiSkLHmWwFwPK4ZO_+,S&3I1U5S7L=x?q=OJbf<u6[sP5@xhrmY5S+2mqp0ij;9^I4Ym.]" ++
  "bteDcC_LATC<QG6qo^hr[=,dQ=Cx4GJme@niWI;f6th].avIjL&CEHD(90gI3ITy@evPwYX~rL5I?VfJalW)Cy:z~C8.i[pXkT&h^>0?rKPy$<HM<A=n|1tBt$MK|b],VmkJ1!);b$[Z_s240l:VVP" ++
  "fVNqQ?]ccr+mFQKI&~ZlWRHQb1g$84RShClBUI*$hkl,UOWT?P,UQ%G6Pe_.nzNVKQKRfE<x=8.6~Ud=].P%D%!6566nmaIXOD$93+Ng@kD1|OK6bK8kg@|TG>s+@;?K145LJZBR5+S8c<+X?ioi1g" ++
  "cCeJ>z7sSlr+)0p8Y(,vcl7AZelliNUM8%%GC+?O;0D!9eO6Xohd15)d@]Lc!]C+U7zSaA^oN!LyUO5xMoj~vsIGo!aC~OW.seOe%(0=$Mn*x;Nnj2SRn0!0D5H*Lxvlz>onsq4xh97w@@>|4L5$pY" ++
  "_(,sMI2A(:[X%o(H,K?LsG@S0t*t;ZoBm~a%^EKq4&7$ZTcfoG,bdz=I,Na46:ScLxuM+jU@cj1z4$3udrIv?soBPMS~INOw,g(fVQpQx$.L:r><e|J&<k|BD_DTE*s?+avFbK73]om.bggHC9IbuQ" ++
  "bffFbjlCN2[2rrd.Djp]k9N:8udGq+@AKezQKW]!mFAH+4^[pyy.N|O_6FrJ:xF|Th~Tf<@GOs*[rDj0i.<rI=Y+~$U?1MlWsfE4([YgJYXxYcFs8a+M8b:bQF7gzkw1B8qYB^WfwT;2+,S,j?yPSO" ++
  "2M:$Xn)9mu0]~nD+eDOL[wK6pFb^b>gbxL+0f51Y97[:y]28eTFp)?EB9nxungLa;rOsN7M7LYDemImDe[WC8ul5|~(TUIme@8y)%m,M99*;V[[mkv^e9SF+e^YU+>gH)a:.8~ZIx1ik@ZV9vJ.i[:" ++
  "kc6MW+Zln!C70019Yz%*cNjW0$e+pGiyki%rQWffE,hxT@W80MFVl=(,i0bymt)3q(QX5a5?p.3s+>O72if5GGDzifs~9ek=wCW)>Q;^8IxlC=dNBi*NAe+=Ek[q)vqQwtbxM(3]PU<evVLhD&h!c(" ++
  "Xf+5Y.b15=yxjd+[54Ez6ZUI~QDWI:FR;nd%+:aJQt0Fr&n@Hsq&Ss93+TU+P).hF(u[Pp(ub&o]ww0ML@AcO9K@*J62VzAr]@jcSZ5pUGsNY17peZ!^9w4YM@7KKfiS6OyBx:y*DmN^5dWljH[*GE" ++
  "fQjmGkJDYl@GOn7MbI<%T7Y)m;p]rI;h?f_Zl<Pw=^G9<<[f5_2*iT0Y<9KnSsyaAGM&+8S:pD;xY4$~+Yck?;rgtLPpsfW8csq3>OO_kv*bEgo@WUQXLy_8ip4e"

/-- Spellings of U+00A0 to U+00FF: Latin-1 letters lose their accents. -/
def latinOne : Table := .ofRows 0x00A0 (alphabetRows.getD 0 [])

/-- Spellings of U+0100 to U+01FF: the Latin letters of Extended-A and Extended-B. -/
def latinExtended : Table := .ofRows 0x0100 (alphabetRows.getD 1 [])

/-- Spellings of U+0200 to U+02FF: more Latin letters, phonetic letters and modifiers. -/
def phonetic : Table := .ofRows 0x0200 (alphabetRows.getD 2 [])

/-- Spellings of U+0300 to U+03FF: combining marks spell nothing, Greek letters their Latin counterparts. -/
def greek : Table := .ofRows 0x0300 (alphabetRows.getD 3 [])

/-- Spellings of U+0400 to U+04FF: Cyrillic letters. -/
def cyrillic : Table := .ofRows 0x0400 (alphabetRows.getD 4 [])

/-- Spellings of U+0530 to U+05FF: Armenian and Hebrew letters. -/
def armenianHebrew : Table := .ofRows 0x0530 (alphabetRows.getD 5 [])

/-- Spellings of U+0600 to U+06FF: Arabic letters and digits. -/
def arabic : Table := .ofRows 0x0600 (alphabetRows.getD 6 [])

/-- Spellings of U+0900 to U+09FF: Devanagari and Bengali letters and digits. -/
def devanagariBengali : Table := .ofRows 0x0900 (alphabetRows.getD 7 [])

/-- Spellings of U+0A00 to U+0A7F, laid out as Devanagari. -/
def gurmukhi : Table := .ofRows 0x0A00 (alphabetRows.getD 8 [])

/-- Spellings of U+0A80 to U+0AFF, laid out as Devanagari. -/
def gujarati : Table := .ofRows 0x0A80 (alphabetRows.getD 9 [])

/-- Spellings of U+0B00 to U+0B7F, laid out as Devanagari. -/
def oriya : Table := .ofRows 0x0B00 (alphabetRows.getD 10 [])

/-- Spellings of U+0B80 to U+0BFF, laid out as Devanagari. -/
def tamil : Table := .ofRows 0x0B80 (alphabetRows.getD 11 [])

/-- Spellings of U+0C00 to U+0C7F, laid out as Devanagari. -/
def telugu : Table := .ofRows 0x0C00 (alphabetRows.getD 12 [])

/-- Spellings of U+0C80 to U+0CFF, laid out as Devanagari. -/
def kannada : Table := .ofRows 0x0C80 (alphabetRows.getD 13 [])

/-- Spellings of U+0D00 to U+0D7F, laid out as Devanagari. -/
def malayalam : Table := .ofRows 0x0D00 (alphabetRows.getD 14 [])

/-- Spellings of U+0E00 to U+0EFF: Thai and Lao letters and digits. -/
def thaiLao : Table := .ofRows 0x0E00 (alphabetRows.getD 15 [])

/-- Spellings of U+1000 to U+10FF: Myanmar and Georgian letters. -/
def myanmarGeorgian : Table := .ofRows 0x1000 (alphabetRows.getD 16 [])

/-- Spellings of U+1680 to U+16FF: Ogham and runic letters. -/
def oghamRunic : Table := .ofRows 0x1680 (alphabetRows.getD 17 [])

/-- Spellings of U+1D00 to U+1DBF: small capitals and modifier letters. -/
def phoneticExtensions : Table := .ofRows 0x1D00 (alphabetRows.getD 18 [])

/-- Spellings of U+1E00 to U+1EFF: Latin letters with marks, spelled as the bare letter. -/
def latinAdditional : Table := .ofRows 0x1E00 (alphabetRows.getD 19 [])

/-- Spellings of U+1F00 to U+1FFF: Greek letters with marks, spelled as the bare letter. -/
def greekExtended : Table := .ofRows 0x1F00 (alphabetRows.getD 20 [])

end Airwaves.Spelling
