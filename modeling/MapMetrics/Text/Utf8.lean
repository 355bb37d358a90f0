/-!
# UTF-8

Octets are read into characters by the table of well-formed sequences: one to four octets, no
longer form than needed, no surrogate, nothing beyond the last code point. Reading stops at the
first octet that rules the text out. A flaw says which octets are to blame: those of the longest
proper beginning of a well-formed sequence, or the one octet that cannot begin any.

A file is read whole, or block by block. Block by block, a sequence cut by the end of a block is
carried over, also one that could only become a surrogate, and places are counted from the start of
what was carried.
-/

namespace MapMetrics.Text.Utf8

/-- The ways in which octets fail to be a text. -/
inductive Flaw where
  /-- The octet begins no sequence. -/
  | start
  /-- The sequence is broken off by an octet that cannot continue it. -/
  | continuation
  /-- The octets end inside a sequence. -/
  | truncated
  deriving DecidableEq, Repr

/-- A flaw, with the octets that it concerns. -/
structure Error where
  /-- Kind of flaw. -/
  flaw : Flaw
  /-- Place of the first octet concerned. -/
  place : Nat
  /-- The octets concerned, at least one. -/
  octets : List UInt8
  deriving DecidableEq, Repr

/-- The outcome of reading octets from a place on. -/
structure Reading where
  /-- The characters read. -/
  chars : List Char
  /-- A flaw that ended the reading. -/
  error : Option Error
  /-- The octets of a sequence that the end cut off. -/
  rest : List UInt8

/-- An octet that may stand inside a sequence. -/
def isContinuation (b : UInt8) : Bool :=
  b &&& 0xC0 == 0x80

/-- The second octets that may follow a first octet: some first octets narrow the range to keep
out longer forms than needed, surrogates and numbers beyond the last code point. -/
def mayFollow (first second : UInt8) : Bool :=
  isContinuation second &&
    (if first == 0xE0 then 0xA0 ≤ second
     else if first == 0xED then second < 0xA0
     else if first == 0xF0 then 0x90 ≤ second
     else if first == 0xF4 then second < 0x90
     else true)

/-- The octets are the beginning of a surrogate, of which one octet is missing. -/
def isCutSurrogate (octets : List UInt8) : Bool :=
  match octets with
  | [first, second] => first == 0xED && isContinuation second && !mayFollow first second
  | _ => false

private def payload (b : UInt8) : Nat :=
  (b &&& 0x3F).toNat

private def Reading.cons (n : Nat) (r : Reading) : Reading :=
  { r with chars := Char.ofNat n :: r.chars }

/-- Reads octets, the first of which stands at `place`. -/
def readFrom (place : Nat) : List UInt8 → Reading
  | [] => ⟨[], none, []⟩
  | a :: afterA =>
    if a < 0x80 then (readFrom (place + 1) afterA).cons a.toNat
    else if a < 0xC2 || 0xF5 ≤ a then ⟨[], some ⟨.start, place, [a]⟩, []⟩
    else match afterA with
      | [] => ⟨[], none, [a]⟩
      | b :: afterB =>
        if isCutSurrogate (a :: b :: afterB) then ⟨[], none, [a, b]⟩
        else if !mayFollow a b then ⟨[], some ⟨.continuation, place, [a]⟩, []⟩
        else if a < 0xE0 then
          (readFrom (place + 2) afterB).cons ((a &&& 0x1F).toNat * 0x40 + payload b)
        else match afterB with
          | [] => ⟨[], none, [a, b]⟩
          | c :: afterC =>
            if !isContinuation c then ⟨[], some ⟨.continuation, place, [a, b]⟩, []⟩
            else if a < 0xF0 then
              (readFrom (place + 3) afterC).cons
                (((a &&& 0x0F).toNat * 0x40 + payload b) * 0x40 + payload c)
            else match afterC with
              | [] => ⟨[], none, [a, b, c]⟩
              | d :: afterD =>
                if !isContinuation d then ⟨[], some ⟨.continuation, place, [a, b, c]⟩, []⟩
                else
                  (readFrom (place + 4) afterD).cons
                    ((((a &&& 0x07).toNat * 0x40 + payload b) * 0x40 + payload c) * 0x40 +
                      payload d)

/-- The flaw of a sequence at a place that the end of a text cuts off, if there is one. -/
def cutOff? (place : Nat) (rest : List UInt8) : Option Error :=
  if rest.isEmpty then none
  else if isCutSurrogate rest then some ⟨.continuation, place, rest.take 1⟩
  else some ⟨.truncated, place, rest⟩

/-- Reads a whole text at once: a sequence that the end cuts off is a flaw where it stands. -/
def decode (octets : List UInt8) : Except Error (List Char) :=
  let reading := readFrom 0 octets
  match reading.error.or (cutOff? (octets.length - reading.rest.length) reading.rest) with
  | some e => .error e
  | none => .ok reading.chars

/-- Reads a text block by block, `carried` being what the block before left over: the characters up
to the first block with a flaw, and the flaw. -/
def decodeBlocks (carried : List UInt8) : List (List UInt8) → List Char × Option Error
  | [] => ([], cutOff? 0 carried)
  | block :: blocks =>
    let reading := readFrom 0 (carried ++ block)
    match reading.error with
    | some e => ([], some e)
    | none =>
      let (chars, error) := decodeBlocks reading.rest blocks
      (reading.chars ++ chars, error)

/-- A text cut into blocks of `size + 1` octets, the last one possibly shorter. -/
def blocks (size : Nat) (octets : List UInt8) : List (List UInt8) :=
  match octets with
  | [] => []
  | b :: rest => (b :: rest.take size) :: blocks size (rest.drop size)
  termination_by octets.length
  decreasing_by simp only [List.length_drop, List.length_cons]; omega

/-- The size of a block of a file. -/
def blockSize : Nat := 8192

/-- Reads a text as it comes from a file, block by block. -/
def decodeStream (octets : List UInt8) : List Char × Option Error :=
  decodeBlocks [] (blocks (blockSize - 1) octets)

private def octetText (b : UInt8) : String :=
  let digits := Nat.toDigits 16 b.toNat
  "0x" ++ String.ofList (List.replicate (2 - digits.length) '0' ++ digits)

/-- What is wrong with the octets concerned. -/
def Flaw.message : Flaw → String
  | .start => "invalid start byte"
  | .continuation => "invalid continuation byte"
  | .truncated => "unexpected end of data"

/-- The message names a single octet by its value and several by their places. -/
def Error.message (e : Error) : String :=
  let culprit := match e.octets with
    | [b] => "byte " ++ octetText b ++ " in position " ++ toString e.place
    | octets => "bytes in position " ++ toString e.place ++ "-" ++
        toString (e.place + octets.length - 1)
  "'utf-8' codec can't decode " ++ culprit ++ ": " ++ e.flaw.message

end MapMetrics.Text.Utf8
