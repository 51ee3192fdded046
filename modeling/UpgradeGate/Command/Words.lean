import UpgradeGate.Number.Literal
import UpgradeGate.Text.Scan

/-!
# Words of a command line

How the words of a command line are matched with a form. A form has switches, some of which take a
value, and places for other words. A switch may be shortened as long as no other switch starts the
same way, its value may follow as the next word or after `=`, and switches of one letter may be
written together. Words after `--` are no switches, and neither are negative numbers and words with
a space in them.
-/

namespace UpgradeGate

/-- A switch of a command. -/
structure Switch where
  /-- What the switch sets. -/
  key : String
  names : List String
  takesValue : Bool
  deriving DecidableEq, Repr

/-- How many words belong in a place. -/
inductive Arity where
  | one
  /-- A whole number, which may be left out. -/
  | number
  | many
  /-- A command word and all that follows. -/
  | rest
  deriving DecidableEq, Repr

/-- What a command takes. -/
structure Form where
  switches : List Switch
  places : List Arity
  deriving DecidableEq, Repr

/-- Why the reading of a command line stops before the command is carried out. -/
inductive Usage where
  /-- Help was asked for. -/
  | help
  /-- The words do not fit the form. -/
  | misuse
  deriving DecidableEq, Repr

/-- A filled form. -/
structure Filled where
  /-- The switches that were given, the latest first, with their values. -/
  settings : List (String × String)
  /-- The words in each place. -/
  groups : List (List String)
  /-- Words for which the form has no place. -/
  strays : Bool
  deriving DecidableEq, Repr

namespace Words

/-- A value attached to a switch: whether `=` stands in front of it, and the value. -/
structure Attached where
  marked : Bool
  value : List Char
  deriving DecidableEq, Repr

/-- What a word is taken for before the form is filled. -/
inductive Mark where
  | plain
  /-- The first `--`. -/
  | separator
  | switch (switch : Switch) (name : List Char) (attached : Option Attached)
  /-- A switch that the form does not have. -/
  | unknown
  deriving DecidableEq, Repr

/-- A word and what it is taken for. -/
structure Token where
  word : String
  mark : Mark
  deriving DecidableEq, Repr

/-- The token is a switch, known or not. -/
def Token.isSwitch (token : Token) : Bool :=
  match token.mark with
  | .switch _ _ _ | .unknown => true
  | _ => false

/-- A word that is a negative number: digits of any script, with a fraction or without. A line feed
at the end is overlooked. -/
def isNegativeNumber (word : List Char) : Bool :=
  match word with
  | '-' :: body =>
    let body := if body.getLast? = some '\n' then body.dropLast else body
    match body.dropWhile Text.isDecimalDigit with
    | [] => !body.isEmpty
    | '.' :: fraction => !fraction.isEmpty && fraction.all Text.isDecimalDigit
    | _ => false
  | _ => false

/-- A word before its first `=`, and the value behind that. -/
def splitValue (word : List Char) : List Char × Option (List Char) :=
  match word.dropWhile (· != '=') with
  | _ :: value => (word.takeWhile (· != '='), some value)
  | [] => (word, none)

/-- All names of a form's switches, with their switches. -/
def namesOf (form : Form) : List (List Char × Switch) :=
  form.switches.flatMap fun switch => switch.names.map fun name => (name.toList, switch)

/-- The switch of an exact name. -/
def named? (form : Form) (name : List Char) : Option Switch :=
  ((namesOf form).find? (·.1 == name)).map Prod.snd

/-- The switches that a word with two hyphens may be short for. -/
def longCandidates (form : Form) (word : List Char) : List Mark :=
  let (start, value) := splitValue word
  (namesOf form).filterMap fun (name, switch) =>
    if start.isPrefixOf name then some (.switch switch name (value.map (⟨true, ·⟩))) else none

/-- The switches that a word with one hyphen may stand for: a letter with something attached, or
the start of a longer name. -/
def shortCandidates (form : Form) (word : List Char) : List Mark :=
  (namesOf form).filterMap fun (name, switch) =>
    if name == word.take 2 then some (.switch switch name (some ⟨false, word.drop 2⟩))
    else if word.isPrefixOf name then some (.switch switch name none)
    else none

/-- What a word in front of any `--` is taken for. -/
def markOf (form : Form) (text : String) : Except Usage Mark :=
  let word := text.toList
  match word with
  | '-' :: second :: _ =>
    match named? form word with
    | some switch => .ok (.switch switch word none)
    | none =>
      let (start, value) := splitValue word
      match value, named? form start with
      | some value, some switch => .ok (.switch switch start (some ⟨true, value⟩))
      | _, _ =>
        let candidates :=
          if second == '-' then longCandidates form word else shortCandidates form word
        match candidates with
        | [mark] => .ok mark
        | _ :: _ :: _ => .error .misuse
        | [] =>
          if isNegativeNumber word || word.contains ' ' then .ok .plain else .ok .unknown
  | _ => .ok .plain

/-- What all words are taken for. -/
def tokens (form : Form) : List String → Except Usage (List Token)
  | [] => .ok []
  | "--" :: rest => .ok (⟨"--", .separator⟩ :: rest.map (⟨·, .plain⟩))
  | word :: rest => do
    let mark ← markOf form word
    let more ← tokens form rest
    pure (⟨word, mark⟩ :: more)

/-! ## Places -/

/-- The tokens of the separator at the start. -/
def separators (tokens : List Token) : Nat :=
  (tokens.takeWhile (·.mark == .separator)).length

/-- One plain word with the separator around it: the number of tokens. -/
def oneWord? (tokens : List Token) : Option Nat :=
  let before := separators tokens
  match tokens.drop before with
  | ⟨_, .plain⟩ :: rest => some (before + 1 + separators rest)
  | _ => none

/-- How many tokens a place takes from the front. -/
def taken? (arity : Arity) (tokens : List Token) : Option Nat :=
  match arity with
  | .one => oneWord? tokens
  | .number => some ((oneWord? tokens).getD (separators tokens))
  | .many => some (tokens.takeWhile (!·.isSwitch)).length
  | .rest => (oneWord? tokens).map fun _ => tokens.length

/-- The words of a place; the first `--` is no word, except among what follows a command. -/
def wordsOf (arity : Arity) (tokens : List Token) : List String :=
  match arity with
  | .rest => tokens.map Token.word
  | _ => (tokens.map Token.word).erase "--"

/-- The words are what belongs in a place. -/
def fits (arity : Arity) (words : List String) : Bool :=
  match arity with
  | .one => words.length == 1
  | .number => words.all fun word => (Literal.plain? word).isSome
  | _ => true

/-- Fill as many places as possible from the front: the words of the filled places, the places that
are left and the tokens that are left. -/
def fillPlaces :
    List Arity → List Token → Except Usage (List (List String) × List Arity × List Token)
  | [], tokens => .ok ([], [], tokens)
  | arity :: places, tokens =>
    match taken? arity tokens with
    | none => .ok ([], arity :: places, tokens)
    | some count => do
      let words := wordsOf arity (tokens.take count)
      if !fits arity words then throw .misuse
      let (groups, left, rest) ← fillPlaces places (tokens.drop count)
      pure (words :: groups, left, rest)

/-! ## Switches -/

/-- What a switch leads to: its settings, whether a part of it is unknown, and how many of the
tokens behind it are its value. -/
structure Effect where
  settings : List (String × String)
  strays : Bool
  used : Nat
  deriving DecidableEq, Repr

/-- A switch that takes no value is set; the switch for help stops the reading. -/
def setFlag (switch : Switch) : Except Usage (List (String × String)) :=
  if switch.key = "help" then .error .help else .ok [(switch.key, "")]

/-- Switches of one letter that are written together. `behind` tells whether a plain word follows,
which the last of them may take as its value. All are read before any is set. -/
def together (form : Form) (behind : Option String) :
    (fuel : Nat) → Switch → Option Attached → Except Usage (List Switch × Effect)
  | 0, _, _ => .error .misuse
  | fuel + 1, switch, attached =>
    match attached with
    | none =>
      if switch.takesValue then
        match behind with
        | some value => .ok ([], ⟨[(switch.key, value)], false, 1⟩)
        | none => .error .misuse
      else .ok ([switch], ⟨[], false, 0⟩)
    | some ⟨marked, value⟩ =>
      if switch.takesValue then .ok ([], ⟨[(switch.key, String.ofList value)], false, 0⟩)
      else
        match value with
        | [] => .error .misuse
        | letter :: more =>
          if marked || letter == '-' then .error .misuse
          else
            match named? form ['-', letter] with
            | none => .ok ([switch], ⟨[], true, 0⟩)
            | some next => do
              let attached := match more with
                | [] => none
                | '=' :: value => some ⟨true, value⟩
                | value => some ⟨false, value⟩
              let (flags, effect) ← together form behind fuel next attached
              pure (switch :: flags, effect)

/-- Carry out a switch. -/
def switchEffect (form : Form) (switch : Switch) (name : List Char) (attached : Option Attached)
    (behind : List Token) : Except Usage Effect := do
  let next := match behind with
    | ⟨word, .plain⟩ :: _ => some word
    | _ => none
  let isLong := name.drop 1 |>.head? |> (· == some '-')
  match attached with
  | some ⟨_, value⟩ =>
    if isLong then
      if switch.takesValue then pure ⟨[(switch.key, String.ofList value)], false, 0⟩
      else throw .misuse
    else
      let (flags, effect) ← together form next (value.length + 2) switch attached
      let settings ← flags.mapM setFlag
      pure { effect with settings := effect.settings ++ settings.flatten }
  | none =>
    let (flags, effect) ← together form next 1 switch none
    let settings ← flags.mapM setFlag
    pure { effect with settings := effect.settings ++ settings.flatten }

/-! ## Forms -/

/-- Fill a form from tokens, places and switches in turn, in at most `fuel` turns. -/
def fillFrom (form : Form) : (fuel : Nat) → List Arity → List Token → Filled → Except Usage Filled
  | 0, _, _, _ => .error .misuse
  | fuel + 1, places, tokens, filled =>
    if tokens.any Token.isSwitch then do
      let (groups, left, rest) ←
        match tokens with
        | ⟨_, .plain⟩ :: _ | ⟨_, .separator⟩ :: _ => fillPlaces places tokens
        | _ => pure ([], places, tokens)
      let filled := { filled with groups := filled.groups ++ groups }
      if rest.length < tokens.length then fillFrom form fuel left rest filled
      else
        let plain := rest.takeWhile (!·.isSwitch)
        let filled := { filled with strays := filled.strays || !plain.isEmpty }
        match rest.drop plain.length with
        | ⟨_, .switch switch name attached⟩ :: behind => do
          let effect ← switchEffect form switch name attached behind
          fillFrom form fuel left (behind.drop effect.used)
            { filled with
              settings := effect.settings.reverse ++ filled.settings
              strays := filled.strays || effect.strays }
        | _ :: behind => fillFrom form fuel left behind { filled with strays := true }
        | [] => throw .misuse
    else do
      let (groups, left, rest) ← fillPlaces places tokens
      if left.isEmpty then
        pure { filled with
          groups := filled.groups ++ groups
          strays := filled.strays || !rest.isEmpty }
      else throw .misuse

/-- Fill a form with the words of a command line. -/
def fill (form : Form) (words : List String) : Except Usage Filled := do
  let tokens ← tokens form words
  fillFrom form (2 * tokens.length + 2) form.places tokens ⟨[], [], false⟩

end Words

end UpgradeGate
