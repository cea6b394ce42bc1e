import ReplSend.Text.Case

/-!
# Encodings

Texts as bytes in UTF-8, Latin-1 and ASCII. Decoding is either strict or puts U+FFFD for what is
not valid: one for each longest run of bytes that could begin a character and does not, or for a
single byte that cannot begin one. `decodeSome` decodes bytes that arrive in pieces and holds back
a character that is still incomplete.
-/

namespace ReplSend

inductive Encoding where
  | utf8
  | latin1
  | ascii
  deriving DecidableEq, Repr

abbrev Bytes := List UInt8

namespace Encoding

/-! ### Names -/

/-- The name in lower case, with one underscore for each run of other characters than letters,
digits and periods; those at the ends and all non-ASCII ones fall away. -/
def normalized (name : Text) : Text :=
  go false [] name
where
  go (gap : Bool) (out : Text) : Text → Text
    | [] => out.reverse
    | c :: cs =>
      if c.isAlphanum || c == '.' then
        go false (c.toLower :: if gap && !out.isEmpty then '_' :: out else out) cs
      else go true out cs

def names : Encoding → List Text
  | utf8 => ["utf_8", "utf8", "u8", "utf", "utf8_ucs2", "utf8_ucs4", "cp65001"]
  | latin1 => ["latin_1", "latin1", "latin", "l1", "iso8859_1", "iso_8859_1", "8859", "iso8859",
      "cp819", "csisolatin1", "ibm819", "iso_8859_1_1987", "iso_ir_100"]
  | ascii => ["ascii", "us_ascii", "646", "ansi_x3.4_1968", "ansi_x3_4_1968", "ansi_x3.4_1986",
      "cp367", "csascii", "ibm367", "iso646_us", "iso_646.irv_1991", "iso_ir_6", "us"]

/-- The encoding of a name. No name holds a zero character. -/
def ofName? (name : Text) : Option Encoding :=
  if name.contains '\x00' then none
  else [utf8, latin1, ascii].find? fun e => e.names.contains (normalized name)

/-! ### Encoding -/

/-- The bytes of a character, if the encoding has it. -/
def encodeChar? : Encoding → Char → Option Bytes
  | utf8, c => some (String.utf8EncodeChar c)
  | latin1, c => if c.toNat < 256 then some [c.toNat.toUInt8] else none
  | ascii, c => if c.toNat < 128 then some [c.toNat.toUInt8] else none

def encode? (e : Encoding) (t : Text) : Option Bytes := (t.mapM e.encodeChar?).map List.flatten

/-! ### Decoding one character -/

/-- What the start of some bytes holds. -/
inductive Piece where
  | char (c : Char) (used : Nat)
  /-- This many bytes are no character, whatever follows. -/
  | invalid (used : Nat)
  /-- More bytes are needed. -/
  | incomplete
  deriving DecidableEq, Repr

def isContinuation (b : UInt8) : Bool := 0x80 ≤ b && b ≤ 0xbf

/-- The byte can follow this first byte of three or four. -/
def isSecond (first b : UInt8) : Bool :=
  isContinuation b &&
    if first = 0xe0 then 0xa0 ≤ b
    else if first = 0xed then b < 0xa0
    else if first = 0xf0 then 0x90 ≤ b
    else if first = 0xf4 then b < 0x90
    else true

/-- The payload of a continuation byte below those of the bytes before. -/
def join (high : Nat) (b : UInt8) : Nat := high * 64 + (b.toNat - 0x80)

/-- The first character of some UTF-8. -/
def utf8Piece : Bytes → Piece
  | [] => .incomplete
  | a :: rest =>
    if a < 0x80 then .char (Char.ofNat a.toNat) 1
    else if a < 0xc2 then .invalid 1
    else if a < 0xe0 then
      match rest with
      | [] => .incomplete
      | b :: _ =>
        if isContinuation b then .char (Char.ofNat (join (a.toNat - 0xc0) b)) 2 else .invalid 1
    else if a < 0xf0 then
      match rest with
      | [] => .incomplete
      | b :: rest =>
        if !isSecond a b then .invalid 1
        else match rest with
          | [] => .incomplete
          | c :: _ =>
            if isContinuation c then
              .char (Char.ofNat (join (join (a.toNat - 0xe0) b) c)) 3
            else .invalid 2
    else if a < 0xf5 then
      match rest with
      | [] => .incomplete
      | b :: rest =>
        if !isSecond a b then .invalid 1
        else match rest with
          | [] => .incomplete
          | c :: rest =>
            if !isContinuation c then .invalid 2
            else match rest with
              | [] => .incomplete
              | d :: _ =>
                if isContinuation d then
                  .char (Char.ofNat (join (join (join (a.toNat - 0xf0) b) c) d)) 4
                else .invalid 3
    else .invalid 1

/-- The first character of some bytes. -/
def piece : Encoding → Bytes → Piece
  | utf8, bs => utf8Piece bs
  | _, [] => .incomplete
  | latin1, b :: _ => .char (Char.ofNat b.toNat) 1
  | ascii, b :: _ => if b < 0x80 then .char (Char.ofNat b.toNat) 1 else .invalid 1

/-! ### Decoding -/

def replacement : Char := Char.ofNat 0xfffd

/-- The text that the bytes encode, if they encode one. `limit` bounds the number of pieces. -/
def decodeWithin? (e : Encoding) : (limit : Nat) → Bytes → Option Text
  | _, [] => some []
  | 0, _ => none
  | limit + 1, bs =>
    match e.piece bs with
    | .char c used => (decodeWithin? e limit (bs.drop used)).map (c :: ·)
    | _ => none

def decode? (e : Encoding) (bs : Bytes) : Option Text := decodeWithin? e bs.length bs

/-- The first two of the three bytes that a surrogate would take. They are held back like an
incomplete character, although no third byte makes them one. -/
def isSurrogateStart : Bytes → Bool
  | [a, b] => a == 0xed && isContinuation b && 0xa0 ≤ b
  | _ => false

/-- Decodes with replacement. Unless these are the last bytes, an incomplete character at the end
is left over. `limit` bounds the number of pieces. -/
def decodeWithin (e : Encoding) (last : Bool) : (limit : Nat) → Bytes → Text × Bytes
  | 0, bs => ([], bs)
  | limit + 1, bs =>
    match bs with
    | [] => ([], [])
    | _ =>
      match e.piece bs with
      | .char c used =>
        let (t, held) := decodeWithin e last limit (bs.drop used)
        (c :: t, held)
      | .invalid used =>
        if !last && e = .utf8 && isSurrogateStart bs then ([], bs)
        else
          let (t, held) := decodeWithin e last limit (bs.drop used)
          (replacement :: t, held)
      | .incomplete => if last then ([replacement], []) else ([], bs)

/-- Decodes the bytes held back so far and the next ones: the text and what is held back now. -/
def decodeSome (e : Encoding) (held next : Bytes) (last : Bool) : Text × Bytes :=
  decodeWithin e last (held.length + next.length) (held ++ next)

/-- The text of the bytes, with replacements. -/
def decode (e : Encoding) (bs : Bytes) : Text := (e.decodeSome [] bs true).1

/-- The text with every line end written as a newline. -/
def newlines : Text → Text
  | [] => []
  | '\r' :: '\n' :: cs => '\n' :: newlines cs
  | c :: cs => (if c = '\r' then '\n' else c) :: newlines cs

end Encoding

end ReplSend
