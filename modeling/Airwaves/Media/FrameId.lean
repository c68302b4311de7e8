/-!
# Frame ids

The frame ids a tag is read with. Versions 3 and 4 name frames by four letters or digits;
version 2 by three, and each three-letter frame has a four-letter equivalent that it is
read as, except the encrypted meta frame `CRM`, which has none.

A frame of an id outside these is not read.
-/
namespace Airwaves.Media

/-- The four-letter ids of the frames that are read. -/
def knownIds : List String :=
  ["AENC", "APIC", "ASPI", "CHAP", "COMM", "COMR", "CTOC", "ENCR", "EQU2", "ETCO", "GEOB",
   "GRID", "GRP1", "IPLS", "LINK", "MCDI", "MLLT", "MVIN", "MVNM", "OWNE", "PCNT", "PCST",
   "POPM", "POSS", "PRIV", "RBUF", "RVA2", "RVAD", "RVRB", "SEEK", "SIGN", "SYLT", "SYTC",
   "TALB", "TBPM", "TCAT", "TCMP", "TCOM", "TCON", "TCOP", "TDAT", "TDEN", "TDES", "TDLY",
   "TDOR", "TDRC", "TDRL", "TDTG", "TENC", "TEXT", "TFLT", "TGID", "TIME", "TIPL", "TIT1",
   "TIT2", "TIT3", "TKEY", "TKWD", "TLAN", "TLEN", "TMCL", "TMED", "TMOO", "TOAL", "TOFN",
   "TOLY", "TOPE", "TORY", "TOWN", "TPE1", "TPE2", "TPE3", "TPE4", "TPOS", "TPRO", "TPUB",
   "TRCK", "TRDA", "TRSN", "TRSO", "TSIZ", "TSO2", "TSOA", "TSOC", "TSOP", "TSOT", "TSRC",
   "TSSE", "TSST", "TXXX", "TYER", "UFID", "USER", "USLT", "WCOM", "WCOP", "WFED", "WOAF",
   "WOAR", "WOAS", "WORS", "WPAY", "WPUB", "WXXX"]

/-- Whether a four-letter id names a frame that is read. -/
def isKnownId (id : String) : Bool := knownIds.contains id

/-- The three-letter frame ids of version 2 with the four-letter ids they are read as. -/
def shortIds : List (String × Option String) :=
  [("UFI", some "UFID"), ("TT1", some "TIT1"), ("TT2", some "TIT2"), ("TT3", some "TIT3"),
   ("TP1", some "TPE1"), ("TP2", some "TPE2"), ("TP3", some "TPE3"), ("TP4", some "TPE4"),
   ("TCM", some "TCOM"), ("TXT", some "TEXT"), ("TLA", some "TLAN"), ("TCO", some "TCON"),
   ("TAL", some "TALB"), ("TPA", some "TPOS"), ("TRK", some "TRCK"), ("TRC", some "TSRC"),
   ("TYE", some "TYER"), ("TDA", some "TDAT"), ("TIM", some "TIME"), ("TRD", some "TRDA"),
   ("TMT", some "TMED"), ("TFT", some "TFLT"), ("TBP", some "TBPM"), ("TCP", some "TCMP"),
   ("TCR", some "TCOP"), ("TPB", some "TPUB"), ("TEN", some "TENC"), ("TST", some "TSOT"),
   ("TSA", some "TSOA"), ("TS2", some "TSO2"), ("TSP", some "TSOP"), ("TSC", some "TSOC"),
   ("TSS", some "TSSE"), ("TOF", some "TOFN"), ("TLE", some "TLEN"), ("TSI", some "TSIZ"),
   ("TDY", some "TDLY"), ("TKE", some "TKEY"), ("TOT", some "TOAL"), ("TOA", some "TOPE"),
   ("TOL", some "TOLY"), ("TOR", some "TORY"), ("TXX", some "TXXX"), ("WAF", some "WOAF"),
   ("WAR", some "WOAR"), ("WAS", some "WOAS"), ("WCM", some "WCOM"), ("WCP", some "WCOP"),
   ("WPB", some "WPUB"), ("WXX", some "WXXX"), ("IPL", some "IPLS"), ("MCI", some "MCDI"),
   ("ETC", some "ETCO"), ("MLL", some "MLLT"), ("STC", some "SYTC"), ("ULT", some "USLT"),
   ("SLT", some "SYLT"), ("COM", some "COMM"), ("RVA", some "RVAD"), ("REV", some "RVRB"),
   ("PIC", some "APIC"), ("GEO", some "GEOB"), ("CNT", some "PCNT"), ("POP", some "POPM"),
   ("BUF", some "RBUF"), ("CRM", none), ("CRA", some "AENC"), ("LNK", some "LINK"),
   ("MVN", some "MVNM"), ("MVI", some "MVIN"), ("GP1", some "GRP1")]

/-- The four-letter id a three-letter id is read as; none for an unknown id and for `CRM`. -/
def longId? (short : String) : Option String := (shortIds.lookup short).join

/-- The ids of the text frames: their body is an encoding and a list of texts. -/
def textIds : List String :=
  ["TALB", "TBPM", "TCAT", "TCMP", "TCOM", "TCON", "TCOP", "TDAT", "TDEN", "TDES", "TDLY",
   "TDOR", "TDRC", "TDRL", "TDTG", "TENC", "TEXT", "TFLT", "TGID", "TIME", "TIT1", "TIT2",
   "TIT3", "TKEY", "TKWD", "TLAN", "TLEN", "TMED", "TMOO", "TOAL", "TOFN", "TOLY", "TOPE",
   "TORY", "TOWN", "TPE1", "TPE2", "TPE3", "TPE4", "TPOS", "TPRO", "TPUB", "TRCK", "TRDA",
   "TRSN", "TRSO", "TSIZ", "TSO2", "TSOA", "TSOC", "TSOP", "TSOT", "TSRC", "TSSE", "TSST",
   "TYER", "MVNM", "MVIN", "GRP1"]

/-- Whether a frame id holds timestamps. -/
def isStampId (id : String) : Bool :=
  id == "TDRC" || id == "TDOR" || id == "TDEN" || id == "TDRL" || id == "TDTG"

end Airwaves.Media
