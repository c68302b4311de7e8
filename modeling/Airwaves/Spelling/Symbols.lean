import Airwaves.Spelling.Table
/-!
# Spellings of symbols

The spelling tables of punctuation and symbols: blanks spell a blank, superscripts and
subscripts, enclosed and fullwidth forms their letter or digit, Roman numerals their
letters, and mathematical letters of every style their plain letter.
-/
namespace Airwaves.Spelling

/-- The rows of the tables below, in order, packed as `packedRows` reads them. -/
def symbolRows : Array (List String) := packedRows <|
  "Lo[TjBgZ=r)M7)yq>[(sG4~!mfN6x@u6z_M:Mov0DsQZWUM+[^%^^d[ls7%oY+$Xrwe$&wnd+*YenjoVjW_Ly.k7u~!aEuP^WX^1,yF^3RDOU^AxksJJ7bha@]P;)Z2czH?7,DP)Ow<21g5zY;J2RL" ++
  "sa%7Ta(@9Kpd?taGiI]!_pvxdW4@@*!r<Mv2!OXr+Tw$X5J;,?eFV_esJSvRlN0>2BTo5a$z@w.(FP%x!hV26@G6NeOxHVxJHlh,iK07RNl,AuRJM4HU+xQ<afHmu8nkCXkZF~paTa1TfjkA?[DEwq" ++
  "8r^gjA,F$ywQ,7C(c8||x[ko8AJ8R;5,vu$RQ4q=]p(.1*_aaLGz5[3s7yyp)efxm=+z_2_qe,iv^6td6_JMUX+Tx~mpWTk]1,yu]k(>smV)[*xa|Pm=8KBOCrIDRP=sMyDURImvW9l!gq++|fV<3?" ++
  "EKk0jEZAQ$E1F4_R|3;I29n@)6B1(oEd??Z:$+JjYa:$~M5YO45usK&i<B5tR%ooDE$TQ_&tsnaf0hbL&qT7M>8H%|;99I(:5=t%&q*6vNFjUg8L!vt_tTti0.mtb?>;LP1hw8Q&IR:KjdG+S&X16l" ++
  "9<+Z=t]KhS0%ge.2JQm5>1vND+,RbNmbn=mC[>Vhj>8^p%oozhtOQoeu4V7<TMMW>vTR|1JS<Ka65RtXukPm,ngeB!Bf=WS%p<A(ZwP=D1&?utlddwS,;0hHEuG()Tf337Zeo.~kQ)2<w9M!i&zX]O" ++
  ";llF_GUXYoC&(aQL1sPVF0.;qC6ig?U3,p8*L6cAGwTACn;@x<Qh)y5Hg_KSIKfsgW@dNe;B)qcVHR7XlOOTd?YC^$.r:M?tc@t2(c|*h(bmy6U6zjyr]Q9M,K,3TtAT3xVJ<o2xb%eu3G02qZuoMK" ++
  "TMUPgO=H0.O=H0.O=H0.O=H0.O=L<)Bv3b<T07][v:KWgNeb~(oA[XmMZa7*!YuqMukGfy7XDr,ltx|O(_kk8@3gamsb5d]_kv:s:4Zvrqb@xZE~7D(=r_WgLwYMKai3)V_%y|^.~X0x0pBm^Nx7^h" ++
  "_w7tO,264_5eTBV,vJ3l6[eJbw8a1m,ihrw[_f]olbB@4(B.q"

/-- Spellings of U+2000 to U+20FF: blanks, super- and subscript digits and currency signs. -/
def punctuation : Table := .ofRows 0x2000 (symbolRows.getD 0 [])

/-- Spellings of U+2100 to U+218F: letterlike symbols, fractions and Roman numerals. -/
def letterlike : Table := .ofRows 0x2100 (symbolRows.getD 1 [])

/-- Spellings of U+2400 to U+24FF: control pictures and enclosed letters and numbers. -/
def enclosed : Table := .ofRows 0x2400 (symbolRows.getD 2 [])

/-- Spellings of U+FB00 to U+FB4F: Latin, Armenian and Hebrew presentation forms. -/
def presentation : Table := .ofRows 0xFB00 (symbolRows.getD 3 [])

/-- Spellings of U+FF00 to U+FFEF: full- and halfwidth forms. -/
def fullwidth : Table := .ofRows 0xFF00 (symbolRows.getD 4 [])

/-- Spellings of U+1D400 to U+1D7FF: mathematical letters and digits of every style. -/
def mathematical : Table := .ofRows 0x1D400 (symbolRows.getD 5 [])

end Airwaves.Spelling
