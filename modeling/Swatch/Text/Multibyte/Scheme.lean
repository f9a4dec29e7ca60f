import Swatch.Text.Multibyte.Chinese
import Swatch.Text.Multibyte.Japanese
import Swatch.Text.Multibyte.Korean

/-!
# Encodings without a state

The encodings of East Asia in which each character is read on its own.
-/

namespace Swatch.Text.Multibyte

/-- An encoding that leaves no state behind. -/
inductive Scheme where
  | big5
  | big5hkscs
  | cp932
  | cp949
  | cp950
  | eucJis (edition : Edition)
  | eucJp
  | eucKr
  | gb18030
  | gb2312
  | gbk
  | johab
  | shiftJis
  | shiftJis213 (edition : Edition)
  deriving DecidableEq, Repr

namespace Scheme

/-- The encodings. -/
def all : List Scheme := [
  .big5, .big5hkscs, .cp932, .cp949, .cp950, .eucJis .first, .eucJis .second, .eucJp, .eucKr,
  .gb18030, .gb2312, .gbk, .johab, .shiftJis, .shiftJis213 .first, .shiftJis213 .second]

/-- The own name of an encoding. -/
def name : Scheme → String
  | .big5 => "big5"
  | .big5hkscs => "big5hkscs"
  | .cp932 => "cp932"
  | .cp949 => "cp949"
  | .cp950 => "cp950"
  | .eucJis .first => "euc_jisx0213"
  | .eucJis .second => "euc_jis_2004"
  | .eucJp => "euc_jp"
  | .eucKr => "euc_kr"
  | .gb18030 => "gb18030"
  | .gb2312 => "gb2312"
  | .gbk => "gbk"
  | .johab => "johab"
  | .shiftJis => "shift_jis"
  | .shiftJis213 .first => "shift_jisx0213"
  | .shiftJis213 .second => "shift_jis_2004"

/-- How the first bytes are read. -/
def read : Scheme → Reader
  | .big5 => readBig5
  | .big5hkscs => readBig5Hkscs
  | .cp932 => readCp932
  | .cp949 => readCp949
  | .cp950 => readCp950
  | .eucJis edition => readEucJis edition
  | .eucJp => readEucJp
  | .eucKr => readEucKr
  | .gb18030 => readGb18030
  | .gb2312 => readGb2312
  | .gbk => readGbk
  | .johab => readJohab
  | .shiftJis => readShiftJis
  | .shiftJis213 edition => readShiftJis213 edition

/-- The text of bytes. -/
def decode (scheme : Scheme) (bytes : List UInt8) : Except DecodeFault (List Char) :=
  decodeFrom scheme.name (fun _ bytes => (scheme.read bytes, ())) 0 () bytes.length bytes

end Scheme

end Swatch.Text.Multibyte
