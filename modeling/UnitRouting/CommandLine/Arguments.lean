import UnitRouting.Number.Numeral

/-! # Command line arguments

Arguments are told apart one by one, each into a token, and the tokens are then collected from left
to right. A long option may be shortened as long as one option only begins like it, and may have its
value attached behind an equals sign. Two dashes divide: behind them there are only words. The first
request for help and the first misuse end the collection. -/

namespace UnitRouting.CommandLine

/-- Why a command line is not carried out. -/
inductive Exit where
  | help
  | misuse
  deriving DecidableEq

/-- What an option takes as its value. -/
inductive ValueKind where
  | text
  | integer
  deriving DecidableEq

/-- What an option is for. -/
inductive Role where
  | help
  /-- Either given or not. -/
  | flag
  | value (kind : ValueKind)
  deriving DecidableEq

/-- The long options of a command, by name. -/
abbrev Options := List (Text × Role)

/-- An argument as a command sees it. -/
inductive Token where
  | word (t : Text)
  | divider
  | help
  | flag (name : Text)
  | value (name : Text) (kind : ValueKind) (attached : Option Text)
  /-- An option with a value attached that it does not take. -/
  | overfull
  | unknown
  deriving DecidableEq

/-- The value can be taken. -/
def ValueKind.accepts : ValueKind → Text → Bool
  | .text, _ => true
  | .integer, t => (Numeral.int? t).isSome

def dash : CodePoint := '-'

/-- Two dashes. -/
def dividerText : Text := [dash, dash]

/-- The text is a negative number, perhaps with a line feed behind it. -/
def isNegativeNumber : Text → Bool
  | [] => false
  | c :: rest =>
    let body := if rest.getLast? = some (CodePoint.ofChar '\n') then rest.dropLast else rest
    let whole := body.takeWhile CodePoint.isDecimal
    c == dash &&
      match body.dropWhile CodePoint.isDecimal with
      | [] => !whole.isEmpty
      | point :: fraction =>
        point == CodePoint.ofChar '.' && !fraction.isEmpty && fraction.all CodePoint.isDecimal

/-- The name of a long option, and the value attached behind an equals sign. -/
def splitAttached (t : Text) : Text × Option Text :=
  let name := t.takeWhile (· != CodePoint.ofChar '=')
  match t.drop name.length with
  | [] => (name, none)
  | _ :: attached => (name, some attached)

/-- The options that a name may mean: the one of exactly that name, or else all that begin with it. -/
def Options.named (options : Options) (name : Text) : Options :=
  match options.filter (·.1 == name) with
  | [] => options.filter fun option => name.isPrefixOf option.1
  | exact => exact

namespace Token

/-- An option with or without a value attached. -/
def ofOption (name : Text) (attached : Option Text) : Role → Token
  | .value kind => .value name kind attached
  | .help => if attached.isSome then .overfull else .help
  | .flag => if attached.isSome then .overfull else .flag name

/-- A request for help by letter, which may be repeated; what is attached behind that is no value,
    so it may not look like one. -/
def ofHelpLetter (rest : Text) : Token :=
  match rest.dropWhile (· == CodePoint.ofChar 'h') with
  | [] => .help
  | c :: _ => if c = dash ∨ c = '=' then .overfull else .help

/-- What begins with a dash but is no option: a word if it is a negative number or has a space. -/
def ofStranger (t : Text) : Token :=
  if isNegativeNumber t || t.contains (CodePoint.ofChar ' ') then .word t else .unknown

/-- The token of an argument that is not the divider; `none` if several options begin like it. -/
def of? (options : Options) (t : Text) : Option Token :=
  match t with
  | a :: b :: rest =>
    if a != dash then some (.word t)
    else if b = dash then
      let (name, attached) := splitAttached t
      match options.named name with
      | [] => some (ofStranger t)
      | [(full, role)] => some (ofOption full attached role)
      | _ => none
    else if b = 'h' then some (ofHelpLetter rest)
    else some (ofStranger t)
  | _ => some (.word t)

/-- The tokens of arguments; `none` if one of them may mean several options. -/
def ofAll? (options : Options) : List Text → Option (List Token)
  | [] => some []
  | t :: rest =>
    if t = dividerText then some (.divider :: rest.map .word)
    else do
      let token ← of? options t
      let tokens ← ofAll? options rest
      return token :: tokens

end Token

/-- What the arguments of a command amount to. -/
structure Collected where
  /-- The word that the command takes, if it takes one. -/
  word : Option Text
  flags : List Text
  /-- The values of options, the latest first. -/
  values : List (Text × Text)
  /-- Something was given that the command does not take. -/
  surplus : Bool

namespace Collected

def empty : Collected := ⟨none, [], [], false⟩

/-- The last value that an option was given. -/
def value? (got : Collected) (name : Text) : Option Text :=
  (got.values.find? (·.1 == name)).map (·.2)

def withSurplus (got : Collected) : Collected := { got with surplus := true }

/-- Takes a word, as the one that is wanted or as surplus. -/
def takeWord (takesWord : Bool) (got : Collected) (t : Text) : Collected :=
  if takesWord && got.word.isNone then { got with word := some t } else got.withSurplus

/-- Gives an option a value. -/
def put (got : Collected) (name : Text) (kind : ValueKind) (t : Text) : Except Exit Collected :=
  if kind.accepts t then .ok { got with values := (name, t) :: got.values } else .error .misuse

/-- Collects tokens. A divider belongs to the wanted word next to it, and is surplus elsewhere. -/
def collect (takesWord : Bool) : Collected → List Token → Except Exit Collected
  | got, [] => .ok got
  | _, .help :: _ => .error .help
  | _, .overfull :: _ => .error .misuse
  | got, .unknown :: rest => collect takesWord got.withSurplus rest
  | got, .flag name :: rest => collect takesWord { got with flags := name :: got.flags } rest
  | got, .value name kind (some t) :: rest => do
    collect takesWord (← got.put name kind t) rest
  | got, .value name kind none :: .word t :: rest => do
    collect takesWord (← got.put name kind t) rest
  | _, .value _ _ none :: _ => .error .misuse
  | got, .divider :: .word t :: rest => collect takesWord (got.takeWord takesWord t) rest
  | got, .divider :: rest => collect takesWord got.withSurplus rest
  | got, .word t :: .divider :: rest => collect takesWord (got.takeWord takesWord t) rest
  | got, .word t :: rest => collect takesWord (got.takeWord takesWord t) rest

end Collected

end UnitRouting.CommandLine
