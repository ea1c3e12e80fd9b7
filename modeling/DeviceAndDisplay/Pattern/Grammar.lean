import DeviceAndDisplay.Pattern.Regex

/-! # The grammar of regular expressions

The grammar of `std::regex`, which is that of ECMAScript with character classes in brackets. It
has no expression for a pattern that `std::regex` rejects. What begins with `?` is left out: `?`
after a repetition or a parenthesis, and `?` itself. -/

namespace DeviceAndDisplay.Pattern

/-- What `regex_traits` takes from the locale. -/
structure Traits where
  lookupClassname : List Char → Option (Char → Bool)
  lookupCollatename : List Char → Option Char
  equivalent : Char → Char → Bool

/-- A set of characters that the locale names. -/
def Traits.named (traits : Traits) (name : List Char) : Char → Bool :=
  (traits.lookupClassname name).getD fun _ => false

/-- `\w`. -/
def Traits.isWord (traits : Traits) (c : Char) : Bool :=
  traits.named ['a', 'l', 'n', 'u', 'm'] c || c = '_'

inductive Token where
  | atom (regex : Regex Char)
  | assertion (regex : Regex Char)
  | opening
  | closing
  | bar
  | quantifier (least : ℕ) (most : Option ℕ)

/-! ### Characters -/

def hexDigit (c : Char) : Option ℕ :=
  if c.isDigit then some (c.toNat - '0'.toNat)
  else if 'a' ≤ c ∧ c ≤ 'f' then some (c.toNat - 'a'.toNat + 10)
  else if 'A' ≤ c ∧ c ≤ 'F' then some (c.toNat - 'A'.toNat + 10)
  else none

/-- The character with the code of `count` hexadecimal digits. -/
def hexCharacter (count : ℕ) (text : List Char) : Option (Char × List Char) :=
  if text.length < count then none
  else
    ((text.take count).mapM hexDigit).map fun digits =>
      (Char.ofNat (digits.foldl (16 * · + ·) 0), text.drop count)

/-- `CharacterEscape`, behind the backslash. -/
def characterEscape : List Char → Option (Char × List Char)
  | 'f' :: rest => some ('\x0c', rest)
  | 'n' :: rest => some ('\n', rest)
  | 'r' :: rest => some ('\r', rest)
  | 't' :: rest => some ('\t', rest)
  | 'v' :: rest => some ('\x0b', rest)
  | 'c' :: c :: rest => if c.isAlpha then some (Char.ofNat (c.toNat % 32), rest) else none
  | 'x' :: rest => hexCharacter 2 rest
  | 'u' :: rest => hexCharacter 4 rest
  | c :: rest => if c.isAlphanum ∨ c = '_' then none else some (c, rest)
  | [] => none

/-- `CharacterClassEscape`, behind the backslash. -/
def characterClassEscape (traits : Traits) : Char → Option (Char → Bool)
  | 'd' => some (traits.named ['d', 'i', 'g', 'i', 't'])
  | 'D' => some fun c => !traits.named ['d', 'i', 'g', 'i', 't'] c
  | 's' => some (traits.named ['s', 'p', 'a', 'c', 'e'])
  | 'S' => some fun c => !traits.named ['s', 'p', 'a', 'c', 'e'] c
  | 'w' => some traits.isWord
  | 'W' => some fun c => !traits.isWord c
  | _ => none

/-- A null character or a reference, behind the backslash. -/
def decimalEscape (text : List Char) : Option (Regex Char × List Char) :=
  let digits := text.takeWhile Char.isDigit
  let rest := text.dropWhile Char.isDigit
  match digits with
  | [] => none
  | ['0'] => some (.one (· = '\x00'), rest)
  | '0' :: _ => none
  | _ => some (.reference (Nat.ofDigitChars 10 digits 0), rest)

/-! ### Brackets -/

/-- A member of brackets: one character, or a class of characters. -/
inductive Member where
  | character (c : Char)
  | set (accepts : Char → Bool)

def Member.accepts : Member → Char → Bool
  | character c => fun d => d = c
  | set accepts => accepts

/-- The name before the closing `:]`, `=]` or `.]`. -/
def bracketName (mark : Char) : List Char → Option (List Char × List Char)
  | [] => none
  | [_] => none
  | c :: ']' :: rest =>
      if c = mark then some ([], rest)
      else (bracketName mark (']' :: rest)).map fun (name, rest) => (c :: name, rest)
  | c :: rest => (bracketName mark rest).map fun (name, rest) => (c :: name, rest)

def member (traits : Traits) : List Char → Option (Member × List Char)
  | '[' :: ':' :: rest => do
      let (name, rest) ← bracketName ':' rest
      some (.set (← traits.lookupClassname name), rest)
  | '[' :: '=' :: rest => do
      let (name, rest) ← bracketName '=' rest
      some (.set (traits.equivalent (← traits.lookupCollatename name)), rest)
  | '[' :: '.' :: rest => do
      let (name, rest) ← bracketName '.' rest
      some (.character (← traits.lookupCollatename name), rest)
  | '\\' :: 'b' :: rest => some (.character '\x08', rest)
  | '\\' :: c :: rest =>
      if c.isDigit then
        if c = '0' ∧ ¬ rest.head?.any Char.isDigit then some (.character '\x00', rest) else none
      else
        match characterClassEscape traits c with
        | some accepts => some (.set accepts, rest)
        | none => (characterEscape (c :: rest)).map fun (c, rest) => (.character c, rest)
  | ['\\'] => none
  | c :: rest => some (.character c, rest)
  | [] => none

/-- The members up to the closing bracket. -/
def members (traits : Traits) : ℕ → List Char → Option ((Char → Bool) × List Char)
  | 0, _ => none
  | _ + 1, ']' :: rest => some (fun _ => false, rest)
  | n + 1, text => do
      let (low, rest) ← member traits text
      match rest with
      | '-' :: c :: after =>
          if c = ']' then
            let (accepts, rest) ← members traits n rest
            some (fun d => low.accepts d || accepts d, rest)
          else
            match low, ← member traits (c :: after) with
            | .character low, (.character high, rest) =>
                if low ≤ high then
                  let (accepts, rest) ← members traits n rest
                  some (fun d => (low ≤ d && d ≤ high) || accepts d, rest)
                else none
            | _, _ => none
      | rest =>
          let (accepts, rest) ← members traits n rest
          some (fun d => low.accepts d || accepts d, rest)

/-- What stands behind an opening bracket. -/
def bracket (traits : Traits) : List Char → Option (Regex Char × List Char)
  | '^' :: rest =>
      (members traits rest.length rest).map fun (accepts, rest) => (.one fun c => !accepts c, rest)
  | rest => (members traits rest.length rest).map fun (accepts, rest) => (.one accepts, rest)

/-! ### Tokens -/

/-- What stands behind an opening brace. -/
def braces (text : List Char) : Option (Token × List Char) :=
  let digits := text.takeWhile Char.isDigit
  let least := Nat.ofDigitChars 10 digits 0
  match digits, text.dropWhile Char.isDigit with
  | [], _ => none
  | _, '}' :: rest => some (.quantifier least (some least), rest)
  | _, ',' :: '}' :: rest => some (.quantifier least none, rest)
  | _, ',' :: rest =>
      let digits := rest.takeWhile Char.isDigit
      let most := Nat.ofDigitChars 10 digits 0
      match digits, rest.dropWhile Char.isDigit with
      | [], _ => none
      | _, '}' :: rest => if least ≤ most then some (.quantifier least (some most), rest) else none
      | _, _ => none
  | _, _ => none

/-- What stands behind a backslash. -/
def escape (traits : Traits) : List Char → Option (Token × List Char)
  | 'b' :: rest => some (.assertion (.boundary traits.isWord true), rest)
  | 'B' :: rest => some (.assertion (.boundary traits.isWord false), rest)
  | c :: rest =>
      if c.isDigit then (decimalEscape (c :: rest)).map fun (regex, rest) => (.atom regex, rest)
      else
        match characterClassEscape traits c with
        | some accepts => some (.atom (.one accepts), rest)
        | none =>
            (characterEscape (c :: rest)).map fun (c, rest) => (.atom (.one (· = c)), rest)
  | [] => none

def isLineTerminator (c : Char) : Bool :=
  c = '\n' || c = '\r' || c = '\u2028' || c = '\u2029'

/-- The characters that do not stand for themselves. -/
def metacharacters : List Char :=
  ['^', '$', '\\', '.', '*', '+', '?', '(', ')', '[', ']', '{', '}', '|']

def nextToken (traits : Traits) : List Char → Option (Token × List Char)
  | [] => none
  | '^' :: rest => some (.assertion .first, rest)
  | '$' :: rest => some (.assertion .last, rest)
  | '\\' :: rest => escape traits rest
  | '.' :: rest => some (.atom (.one fun c => !isLineTerminator c), rest)
  | '*' :: rest => some (.quantifier 0 none, rest)
  | '+' :: rest => some (.quantifier 1 none, rest)
  | '(' :: rest => some (.opening, rest)
  | ')' :: rest => some (.closing, rest)
  | '[' :: rest => (bracket traits rest).map fun (regex, rest) => (.atom regex, rest)
  | '{' :: rest => braces rest
  | '|' :: rest => some (.bar, rest)
  | c :: rest => if c ∈ metacharacters then none else some (.atom (.one (· = c)), rest)

/-- The tokens of a text; each of them has a character. -/
def tokens (traits : Traits) : ℕ → List Char → Option (List Token)
  | _, [] => some []
  | 0, _ :: _ => none
  | n + 1, c :: rest => do
      let (token, rest) ← nextToken traits (c :: rest)
      some (token :: (← tokens traits n rest))

/-! ### Expressions -/

/-- A parenthesis that is open: the alternatives before the last `|`, and the terms after it. -/
structure Level where
  alternatives : List (List (Regex Char)) := []
  terms : List (Regex Char) := []

def Level.push (level : Level) (regex : Regex Char) : Level :=
  { level with terms := level.terms ++ [regex] }

def Level.regex (level : Level) : Regex Char :=
  level.alternatives.foldr (fun terms regex => .either (.sequence terms) regex)
    (.sequence level.terms)

/-- The expression that the tokens make, and how many groups it has. `outer` holds the parentheses
around this one, each with the index of the group that stands in it. -/
def parse (outer : List (ℕ × Level)) (level : Level) (count : ℕ) :
    List Token → Option (Regex Char × ℕ)
  | [] => if outer = [] then some (level.regex, count) else none
  | .atom regex :: .quantifier least most :: rest =>
      parse outer (level.push (.times least most regex)) count rest
  | .atom regex :: rest => parse outer (level.push regex) count rest
  | .assertion regex :: rest => parse outer (level.push regex) count rest
  | .bar :: rest =>
      parse outer { alternatives := level.alternatives ++ [level.terms] } count rest
  | .opening :: rest => parse ((count + 1, level) :: outer) {} (count + 1) rest
  | .closing :: .quantifier least most :: rest =>
      match outer with
      | [] => none
      | (index, around) :: outer =>
          parse outer (around.push (.times least most (.group index level.regex))) count rest
  | .closing :: rest =>
      match outer with
      | [] => none
      | (index, around) :: outer => parse outer (around.push (.group index level.regex)) count rest
  | .quantifier _ _ :: _ => none

/-- The references in an expression. -/
def Regex.references {α : Type*} : Regex α → List ℕ
  | seq front back => front.references ++ back.references
  | either left right => left.references ++ right.references
  | group _ body => body.references
  | reference index => [index]
  | times _ _ body => body.references
  | _ => []

/-- The constructor of `std::regex`; no expression stands for `std::regex_error`. -/
def compile (traits : Traits) (pattern : List Char) : Option (Regex Char) := do
  let (regex, count) ← parse [] {} 0 (← tokens traits pattern.length pattern)
  if ∀ index ∈ regex.references, index ≤ count then some regex else none

end DeviceAndDisplay.Pattern
