import ScaffoldRunner.Utility.Escape
import ScaffoldRunner.Utility.Real

/-!
# Formatted output

A format is text with conversions in it. It is used again until its arguments are used up;
arguments that are missing count as empty or as zero. Those who write under a format differ in
what they say about wrong arguments: that is their `FormatDialect`.
-/

namespace ScaffoldRunner

/-- How a format is read, and what is said about wrong arguments. -/
structure FormatDialect where
  /-- The escapes of the format and those of converted texts. -/
  formatEscape : Escape.Reading
  textEscape : Escape.Reading
  /-- Whether an escaped `c` in the format stops all output. -/
  stopsInFormat : Bool
  /-- The letters that may stand in front of the letter of a conversion. -/
  sizes : List Char
  notNumeric : String → String
  notAllNumeric : String → String
  outOfRange : String → String
  /-- What is said about a conversion that there is not. -/
  invalid : String → String
  missingLetter : String → String

/-- A conversion of a format: its flags, width, precision and letter. A star takes the number from
the arguments. -/
structure Conversion where
  flags : List Char
  width : Option (Option Nat)
  precision : Option (Option Nat)
  letter : Char
  /-- The conversion as it stands in the format. -/
  text : String

inductive FormatPiece where
  | text (cs : List Char)
  | conversion (c : Conversion)
  /-- The format ends within a conversion. -/
  | unfinished (text : String)
  | stop

namespace Format

/-- Read a number or a star. -/
def readSize (cs : List Char) : Option (Option Nat) × List Char :=
  match cs with
  | '*' :: rest => (some none, rest)
  | cs =>
      let digits := cs.takeWhile Char.isDigit
      if digits.isEmpty then (none, cs)
      else (some (some (digits.foldl (fun n c => n * 10 + (c.toNat - 48)) 0)),
        cs.drop digits.length)

/-- Read a conversion after its percent sign. -/
def readConversion (sizes : List Char) (all : List Char) : FormatPiece × List Char :=
  let isFlag (c : Char) : Bool := "-+ #0".toList.contains c
  let flags := all.takeWhile isFlag
  let (width, cs) := readSize (all.drop flags.length)
  let (precision, cs) := match cs with
    | '.' :: rest =>
        let (size, rest) := readSize rest
        (some (size.getD (some 0)), rest)
    | cs => (none, cs)
  let cs := cs.dropWhile sizes.contains
  match cs with
  | letter :: rest =>
      let text := '%' :: all.take (all.length - rest.length)
      (.conversion ⟨flags, width, precision, letter, String.ofList text⟩, rest)
  | [] => (.unfinished (String.ofList ('%' :: all)), [])

def read (d : FormatDialect) : Nat → List Char → List FormatPiece
  | 0, _ => []
  | _, [] => []
  | fuel + 1, '%' :: '%' :: cs => .text ['%'] :: read d fuel cs
  | fuel + 1, '%' :: cs =>
      let (piece, rest) := readConversion d.sizes cs
      piece :: read d fuel rest
  | fuel + 1, '\\' :: cs =>
      if d.stopsInFormat && cs.head? = some 'c' then [.stop]
      else
        let (found, rest) := d.formatEscape cs
        .text found :: read d fuel rest
  | fuel + 1, c :: cs =>
      let text := (c :: cs).takeWhile fun c => c ≠ '%' && c ≠ '\\'
      .text text :: read d fuel ((c :: cs).drop text.length)

/-- Bring a text to a width. -/
def pad (toLeft : Bool) (width : Nat) (cs : List Char) : List Char :=
  let fill := List.replicate (width - cs.length) ' '
  if toLeft then cs ++ fill else fill ++ cs

/-- A number's sign and digits, with zeros between them up to the width if so asked. -/
def signed (flags : List Char) (width : Nat) (zeros : Bool) (sign body : List Char) : List Char :=
  let fill := if zeros && flags.contains '0' && !flags.contains '-' then
    List.replicate (width - sign.length - body.length) '0' else []
  pad (flags.contains '-') width (sign ++ fill ++ body)

def signOf (flags : List Char) (negative : Bool) : List Char :=
  if negative then ['-']
  else if flags.contains '+' then ['+']
  else if flags.contains ' ' then [' ']
  else []

/-- The text of a whole number under a conversion. -/
def whole (letter : Char) (flags : List Char) (width : Nat) (precision : Option Nat) (n : Int) :
    List Char :=
  let isSigned := letter = 'd' || letter = 'i'
  let size := if isSigned then n.natAbs else (n % Int.ofNat (twoTo 64)).toNat
  let digits : List Char :=
    if precision = some 0 && size = 0 then []
    else
      match letter with
      | 'o' => Nat.toDigits 8 size
      | 'x' => Nat.toDigits 16 size
      | 'X' => (Nat.toDigits 16 size).map Char.toUpper
      | _ => Nat.toDigits 10 size
  let digits := List.replicate ((precision.getD 0) - digits.length) '0' ++ digits
  let sign : List Char :=
    if isSigned then signOf flags (n < 0)
    else if flags.contains '#' && (letter = 'x' || letter = 'X') && size ≠ 0 then ['0', letter]
    else []
  let digits := if flags.contains '#' && letter = 'o' && digits.head? ≠ some '0' then '0' :: digits
    else digits
  signed flags width precision.isNone sign digits

/-- The text of a real number under a conversion. -/
def real (letter : Char) (flags : List Char) (width : Nat) (precision : Option Nat) (x : Float) :
    List Char :=
  let sign := signOf flags (Decimal.isNegative x)
  let keeps := flags.contains '#'
  let places := precision.getD 6
  let (zeros, body) : Bool × List Char :=
    if x.isNaN then (false, "nan".toList)
    else if x.isInf then (false, "inf".toList)
    else
      (true, match letter.toLower with
        | 'f' => Real.fixed keeps places x
        | 'e' => Real.scientific keeps places x
        | 'a' => Real.hexadecimal keeps precision x
        | _ => Real.general keeps places x)
  let body := if letter.isUpper then body.map Char.toUpper else body
  if zeros && letter.toLower = 'a' then signed flags width true (sign ++ body.take 2) (body.drop 2)
  else signed flags width zeros sign body

/-- What is wrong with an argument that should be a number. -/
inductive Doubt where
  | notNumeric
  | notAllNumeric
  | outOfRange

/-- The whole number in a text, in decimal, octal or hexadecimal digits. -/
def wholeNumber (isSigned : Bool) (arg : List Char) : Int × Option Doubt :=
  match arg with
  | '\'' :: rest | '"' :: rest => (((rest.head?).map fun c => Int.ofNat c.toNat).getD 0, none)
  | _ =>
      let cs := arg.dropWhile Real.isBlank
      let (negative, cs) : Bool × List Char := match cs with
        | '-' :: rest => (true, rest)
        | '+' :: rest => (false, rest)
        | cs => (false, cs)
      let (base, digits, rest) : Nat × List Char × List Char := match cs with
        | '0' :: x :: c :: more =>
            if x.toLower = 'x' && Escape.isHex c then
              (16, (c :: more).takeWhile Escape.isHex, (c :: more).dropWhile Escape.isHex)
            else (8, cs.takeWhile Escape.isOctal, cs.dropWhile Escape.isOctal)
        | '0' :: _ => (8, cs.takeWhile Escape.isOctal, cs.dropWhile Escape.isOctal)
        | _ => (10, cs.takeWhile Char.isDigit, cs.dropWhile Char.isDigit)
      if digits.isEmpty then (0, if arg.isEmpty then none else some .notNumeric)
      else
        let size := digits.foldl (fun n c => n * base + Escape.digitValue c) 0
        let value : Int := if negative then -Int.ofNat size else size
        let most : Int := if isSigned then Int.ofNat (twoTo 63) - 1 else Int.ofNat (twoTo 64) - 1
        let least : Int := if isSigned then -Int.ofNat (twoTo 63) else -most
        let isOut := value < least || most < value
        let value := if !isOut then value
          else if isSigned && negative then least else most
        (value, if !rest.isEmpty then some .notAllNumeric
          else if isOut then some .outOfRange else none)

def realNumber (arg : List Char) : Float × Option Doubt :=
  match arg with
  | '\'' :: rest | '"' :: rest => (((rest.head?).map fun c => Float.ofNat c.toNat).getD 0.0, none)
  | _ =>
      match Real.read? arg with
      | none => (0.0, if arg.isEmpty then none else some .notNumeric)
      | some r =>
          (r.value, if !r.rest.isEmpty then some .notAllNumeric
            else if r.outOfRange then some .outOfRange else none)

/-- What a format has written so far. -/
structure Output where
  /-- The pieces of text, the last one first. -/
  texts : List (List Char) := []
  args : List String
  /-- What is to be said about arguments, the last first. -/
  complaints : List String := []
  /-- What is wrong with the format. -/
  fault : Option String := none
  stopped : Bool := false

namespace Output

/-- Take an argument. -/
def next (o : Output) : Option String × Output := (o.args.head?, { o with args := o.args.drop 1 })

def put (o : Output) (cs : List Char) : Output := { o with texts := cs :: o.texts }

def text (o : Output) : String := String.ofList o.texts.reverse.flatten

/-- Note what is wrong with an argument. -/
def doubt (d : FormatDialect) (o : Output) (arg : String) : Option Doubt → Output
  | none => o
  | some .notNumeric => { o with complaints := d.notNumeric arg :: o.complaints }
  | some .notAllNumeric => { o with complaints := d.notAllNumeric arg :: o.complaints }
  | some .outOfRange => { o with complaints := d.outOfRange arg :: o.complaints }

/-- Take an argument that is a whole number; one that is missing is zero. -/
def nextWhole (d : FormatDialect) (isSigned : Bool) (o : Output) : Int × Output :=
  match o.next with
  | (none, o) => (0, o)
  | (some arg, o) =>
      let (n, reason) := wholeNumber isSigned arg.toList
      (n, o.doubt d arg reason)

/-- Take an argument that is a real number; one that is missing is zero. -/
def nextReal (d : FormatDialect) (o : Output) : Float × Output :=
  match o.next with
  | (none, o) => (0.0, o)
  | (some arg, o) =>
      let (x, reason) := realNumber arg.toList
      (x, o.doubt d arg reason)

/-- The number for a size, which may stand in the arguments. -/
def size (d : FormatDialect) (o : Output) : Option (Option Nat) → Option Int × Output
  | none => (none, o)
  | some (some n) => (some n, o)
  | some none =>
      let (n, o) := o.nextWhole d true
      (some n, o)

def convert (d : FormatDialect) (o : Output) (c : Conversion) : Output :=
  let (width, o) := o.size d c.width
  let (precision, o) := o.size d c.precision
  let width := width.getD 0
  let flags := if width < 0 then '-' :: c.flags else c.flags
  let width := width.natAbs
  let precision : Option Nat := precision.bind fun p => if p < 0 then none else some p.toNat
  let toLeft := flags.contains '-'
  let cut (cs : List Char) : List Char := match precision with
    | some p => cs.take p
    | none => cs
  if c.letter = 's' then
    let (arg, o) := o.next
    o.put (pad toLeft width (cut (arg.getD "").toList))
  else if c.letter = 'c' then
    let (arg, o) := o.next
    o.put (pad toLeft width (match (arg.getD "").toList with
      | [] => [Char.ofNat 0]
      | first :: _ => [first]))
  else if c.letter = 'b' then
    let (arg, o) := o.next
    let (text, goesOn) := Escape.expandAll d.textEscape (arg.getD "")
    { o.put (pad toLeft width (cut text.toList)) with stopped := !goesOn }
  else if c.letter = 'd' || c.letter = 'i' then
    let (n, o) := o.nextWhole d true
    o.put (whole c.letter flags width precision n)
  else if "ouxX".toList.contains c.letter then
    let (n, o) := o.nextWhole d false
    o.put (whole c.letter flags width precision n)
  else if "aAeEfFgG".toList.contains c.letter then
    let (x, o) := o.nextReal d
    o.put (real c.letter flags width precision x)
  else { o with fault := some (d.invalid c.text), stopped := true }

/-- Write a piece, unless all output has stopped. -/
def piece (d : FormatDialect) (o : Output) (p : FormatPiece) : Output :=
  if o.stopped then o
  else
    match p with
    | .text cs => o.put cs
    | .conversion c => o.convert d c
    | .unfinished text => { o with fault := some (d.missingLetter text), stopped := true }
    | .stop => { o with stopped := true }

end Output

/-- Use a format until the arguments are used up, and at least once. -/
def apply (d : FormatDialect) (pieces : List FormatPiece) : Nat → Output → Output
  | 0, o => o
  | fuel + 1, o =>
      let left := o.args.length
      let o := pieces.foldl (Output.piece d) o
      if o.stopped || o.args.isEmpty || o.args.length = left then o else apply d pieces fuel o

/-- What a format writes with arguments. -/
def output (d : FormatDialect) (format : String) (args : List String) : Output :=
  apply d (read d (format.length + 1) format.toList) (args.length + 1) { args := args }

end Format

end ScaffoldRunner
