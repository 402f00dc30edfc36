import SchemaGrammar.Json.Basic

/-!
# JSON documents, sound or broken

Reading a text never fails: it gives a `Doc`, the tree of all that stands in the text up to
the first place where the text stops being JSON, with the fault kept at that place.  Whoever
walks the tree in text order meets a fault exactly when a reader of the text would, after
everything that stands before it.

Two walks are defined here.  `Doc.read` takes every value in full: escapes must form
characters, numbers must fit, and containers may not be nested beyond an allowance.
`Doc.skip` only passes over a value that nobody asked for, and is content with its shape.

**Results.**
* `Doc.ofJson` is the sound document of a value, and `Doc.read_ofJson` reads it back.
-/

namespace SchemaGrammar

/-- The ways in which a text fails to be JSON. -/
inductive SyntaxError
  | endInObject
  | endInList
  | endInValue
  | endInString
  | noValue
  | badWord
  | noObjectComma
  | noListComma
  | noColon
  | keyNotString
  | trailingComma
  | trailingCharacters
  | badEscape
  | badNumber
  | numberOutOfRange
  | controlInString
  | loneSurrogate
  | endOfEscape
  | tooDeep
  deriving DecidableEq, Inhabited

/-- The wording of a syntax error. -/
def SyntaxError.message : SyntaxError → String
  | .endInObject => "EOF while parsing an object"
  | .endInList => "EOF while parsing a list"
  | .endInValue => "EOF while parsing a value"
  | .endInString => "EOF while parsing a string"
  | .noValue => "expected value"
  | .badWord => "expected ident"
  | .noObjectComma => "expected `,` or `\x7d`"
  | .noListComma => "expected `,` or `]`"
  | .noColon => "expected `:`"
  | .keyNotString => "key must be a string"
  | .trailingComma => "trailing comma"
  | .trailingCharacters => "trailing characters"
  | .badEscape => "invalid escape"
  | .badNumber => "invalid number"
  | .numberOutOfRange => "number out of range"
  | .controlInString => "control character (\\u0000-\\u001F) found while parsing a string"
  | .loneSurrogate => "lone leading surrogate in hex escape"
  | .endOfEscape => "unexpected end of hex escape"
  | .tooDeep => "recursion limit exceeded"

section Strings

/-- A piece of a written string: a character, or the 16-bit unit of a hexadecimal escape. -/
inductive Piece
  | char (c : Char)
  | unit (n : Nat)
  deriving DecidableEq, Inhabited

/-- How a written string ends. -/
inductive StringStop
  /-- At its closing quote. -/
  | closed
  /-- At the end of the text. -/
  | ended
  /-- At a backslash before a character that is no escape. -/
  | badEscape
  /-- At a hexadecimal escape with a bad digit. -/
  | badDigit
  /-- At a bare control character. -/
  | control
  deriving DecidableEq, Inhabited

/-- A written string. -/
structure StringLit where
  pieces : List Piece
  stop : StringStop
  deriving DecidableEq, Inhabited

def isHighSurrogate (n : Nat) : Bool := 0xD800 ≤ n && n ≤ 0xDBFF

def isLowSurrogate (n : Nat) : Bool := 0xDC00 ≤ n && n ≤ 0xDFFF

/-- The character of a surrogate pair. -/
def ofSurrogates (high low : Nat) : Char :=
  Char.ofNat ((high - 0xD800) * 0x400 + (low - 0xDC00) + 0x10000)

/-- The error of a string that ends here, if it is one. -/
def StringStop.error? : StringStop → Option SyntaxError
  | .closed => none
  | .ended => some .endInString
  | .badEscape => some .badEscape
  | .badDigit => some .badEscape
  | .control => some .controlInString

/-- The error of a high surrogate with nothing but the end of the string behind it. -/
def StringStop.errorAfterHigh : StringStop → SyntaxError
  | .ended => .endInString
  | .badDigit => .badEscape
  | _ => .endOfEscape

/-- The characters that the pieces stand for. -/
def readPieces (stop : StringStop) : List Piece → Except SyntaxError (List Char)
  | [] => match stop.error? with
      | none => .ok []
      | some e => .error e
  | .char c :: rest => (readPieces stop rest).map (c :: ·)
  | .unit n :: rest =>
      if isLowSurrogate n then .error .loneSurrogate
      else if isHighSurrogate n then
        match rest with
        | [] => .error stop.errorAfterHigh
        | .char _ :: _ => .error .endOfEscape
        | .unit m :: rest =>
            if isLowSurrogate m then (readPieces stop rest).map (ofSurrogates n m :: ·)
            else .error .loneSurrogate
      else (readPieces stop rest).map (Char.ofNat n :: ·)

namespace StringLit

/-- The text that a written string stands for. -/
def read (s : StringLit) : Except SyntaxError String :=
  (readPieces s.stop s.pieces).map String.ofList

/-- Passes over a written string. -/
def skip (s : StringLit) : Except SyntaxError Unit :=
  match s.stop.error? with
  | none => .ok ()
  | some e => .error e

/-- The sound written form of a text. -/
def ofString (s : String) : StringLit := ⟨s.toList.map .char, .closed⟩

theorem readPieces_map_char (cs : List Char) :
    readPieces .closed (cs.map .char) = .ok cs := by
  induction cs with
  | nil => rfl
  | cons c cs ih => simp [readPieces, ih, Except.map]

@[simp] theorem read_ofString (s : String) : (ofString s).read = .ok s := by
  simp [read, ofString, readPieces_map_char, Except.map]

end StringLit

end Strings

/-- Why a text holds no value where one is due. -/
inductive Fault
  /-- The text ends before the value. -/
  | ended
  /-- A character that begins no value. -/
  | noValue
  /-- The text ends inside `true`, `false` or `null`. -/
  | wordEnded
  /-- Another character inside `true`, `false` or `null`. -/
  | badWord
  /-- The text ends where a digit is due. -/
  | numberEnded
  /-- Another character where a digit is due, or a zero before further digits. -/
  | badNumber
  /-- The text ends between a key and its colon. -/
  | colonEnded
  /-- Another character where the colon is due. -/
  | noColon
  deriving DecidableEq, Inhabited

/-- The fault as a reader of the value reports it. -/
def Fault.readError : Fault → SyntaxError
  | .ended | .wordEnded | .numberEnded => .endInValue
  | .noValue => .noValue
  | .badWord => .badWord
  | .badNumber => .badNumber
  | .colonEnded => .endInObject
  | .noColon => .noColon

/-- The fault as it is reported when the value is only passed over. -/
def Fault.skipError : Fault → SyntaxError
  | .numberEnded => .badNumber
  | f => f.readError

/-- How the items of an array end. -/
inductive ListStop
  /-- At the closing bracket. -/
  | closed
  /-- At the end of the text. -/
  | ended
  /-- At a closing bracket right after a comma. -/
  | comma
  /-- At the end of the text right after a comma. -/
  | commaEnded
  /-- At a character that is neither comma nor bracket. -/
  | junk
  deriving DecidableEq, Inhabited

namespace ListStop

/-- The outcome for a reader that has taken every item. -/
def read : ListStop → Except SyntaxError Unit
  | .closed => .ok ()
  | .ended => .error .endInList
  | .comma => .error .trailingComma
  | .commaEnded => .error .endInValue
  | .junk => .error .noListComma

/-- The outcome when the array is only passed over. -/
def skip : ListStop → Except SyntaxError Unit
  | .comma => .error .noValue
  | stop => stop.read

/-- The outcome for a reader that wanted no further item and finds none. -/
def finish : ListStop → Except SyntaxError Unit
  | .closed => .ok ()
  | .ended => .error .endInList
  | .comma => .error .trailingComma
  | .commaEnded | .junk => .error .trailingCharacters

end ListStop

/-- How the members of an object end. -/
inductive ObjectStop
  /-- At the closing brace. -/
  | closed
  /-- At the end of the text. -/
  | ended
  /-- At a closing brace right after a comma. -/
  | comma
  /-- At the end of the text right after a comma. -/
  | commaEnded
  /-- At a character that begins no key where a key is due. -/
  | noKey
  /-- At a character that is neither comma nor brace after a value. -/
  | junk
  deriving DecidableEq, Inhabited

namespace ObjectStop

/-- The outcome for a reader that has taken every member. -/
def read : ObjectStop → Except SyntaxError Unit
  | .closed => .ok ()
  | .ended => .error .endInObject
  | .comma => .error .trailingComma
  | .commaEnded => .error .endInValue
  | .noKey => .error .keyNotString
  | .junk => .error .noObjectComma

/-- The outcome when the object is only passed over. -/
def skip : ObjectStop → Except SyntaxError Unit
  | .comma => .error .keyNotString
  | .commaEnded => .error .endInObject
  | stop => stop.read

end ObjectStop

/-- A document: a value as far as the text goes. -/
inductive Doc
  | null
  | bool (value : Bool)
  /-- A number, or nothing if it is beyond the largest double. -/
  | num (value : Option Number)
  | str (lit : StringLit)
  | arr (items : List Doc) (stop : ListStop)
  | obj (members : List (StringLit × Doc)) (stop : ObjectStop)
  | broken (fault : Fault)
  deriving Inhabited

/-- How many containers may still be opened inside one another; nothing for any number. -/
abbrev Allowance := Option Nat

/-- The allowance inside one more container. -/
def Allowance.enter : Allowance → Except SyntaxError Allowance
  | none => .ok none
  | some 0 => .error .tooDeep
  | some (n + 1) => .ok (some n)

namespace Doc

section Walks

mutual

/-- The value of a document, every part of it taken in full. -/
def read (allowance : Allowance) : Doc → Except SyntaxError Json
  | .null => .ok .null
  | .bool b => .ok (.bool b)
  | .num (some n) => .ok (.num n)
  | .num none => .error .numberOutOfRange
  | .str lit => lit.read.map .str
  | .arr items stop => do
      let inner ← allowance.enter
      let vs ← readItems inner items
      stop.read
      return .arr vs
  | .obj members stop => do
      let inner ← allowance.enter
      let ms ← readMembers inner members
      stop.read
      return .obj ms
  | .broken fault => .error fault.readError

/-- The values of the items. -/
def readItems (allowance : Allowance) : List Doc → Except SyntaxError (List Json)
  | [] => .ok []
  | d :: ds => do
      let v ← read allowance d
      let vs ← readItems allowance ds
      return v :: vs

/-- The keys and values of the members. -/
def readMembers (allowance : Allowance) :
    List (StringLit × Doc) → Except SyntaxError (List (String × Json))
  | [] => .ok []
  | (k, d) :: ms => do
      let key ← k.read
      let v ← read allowance d
      let rest ← readMembers allowance ms
      return (key, v) :: rest

end

mutual

/-- Passes over a document. -/
def skip : Doc → Except SyntaxError Unit
  | .null | .bool _ | .num _ => .ok ()
  | .str lit => lit.skip
  | .arr items stop => do
      skipItems items
      stop.skip
  | .obj members stop => do
      skipMembers members
      stop.skip
  | .broken fault => .error fault.skipError

/-- Passes over the items. -/
def skipItems : List Doc → Except SyntaxError Unit
  | [] => .ok ()
  | d :: ds => do
      skip d
      skipItems ds

/-- Passes over the members. -/
def skipMembers : List (StringLit × Doc) → Except SyntaxError Unit
  | [] => .ok ()
  | (k, d) :: ms => do
      k.skip
      skip d
      skipMembers ms

end

end Walks

section OfJson

mutual

/-- The sound document of a value. -/
def ofJson : Json → Doc
  | .null => .null
  | .bool b => .bool b
  | .num n => .num (some n)
  | .str s => .str (.ofString s)
  | .arr items => .arr (ofItems items) .closed
  | .obj members => .obj (ofMembers members) .closed

/-- The sound documents of items. -/
def ofItems : List Json → List Doc
  | [] => []
  | v :: vs => ofJson v :: ofItems vs

/-- The sound documents of members. -/
def ofMembers : List (String × Json) → List (StringLit × Doc)
  | [] => []
  | (k, v) :: ms => (.ofString k, ofJson v) :: ofMembers ms

end

mutual

/-- Without a limit on depth, the sound document of a value reads as that value. -/
theorem read_ofJson : ∀ v : Json, (ofJson v).read none = .ok v
  | .null => rfl
  | .bool _ => rfl
  | .num _ => rfl
  | .str s => by simp [ofJson, read, Except.map]
  | .arr items => by
      simp [ofJson, read, Allowance.enter, readItems_ofItems items, ListStop.read, bind,
        Except.bind, pure, Except.pure]
  | .obj members => by
      simp [ofJson, read, Allowance.enter, readMembers_ofMembers members, ObjectStop.read, bind,
        Except.bind, pure, Except.pure]

theorem readItems_ofItems : ∀ vs : List Json, readItems none (ofItems vs) = .ok vs
  | [] => rfl
  | v :: vs => by
      simp [ofItems, readItems, read_ofJson v, readItems_ofItems vs, bind, Except.bind, pure,
        Except.pure]

theorem readMembers_ofMembers :
    ∀ ms : List (String × Json), readMembers none (ofMembers ms) = .ok ms
  | [] => rfl
  | (k, v) :: ms => by
      simp [ofMembers, readMembers, read_ofJson v, readMembers_ofMembers ms, bind, Except.bind,
        pure, Except.pure]

end

end OfJson

end Doc

/-- A text read as a document: its value, and whether only blanks follow it. -/
structure Document where
  body : Doc
  ended : Bool
  deriving Inhabited

/-- How deep arrays and objects may be nested in a text. -/
def Document.depthLimit : Nat := 127

/-- The value of a document that holds nothing else. -/
def Document.read (allowance : Allowance) (d : Document) : Except SyntaxError Json := do
  let v ← d.body.read allowance
  if d.ended then return v else throw .trailingCharacters

end SchemaGrammar
