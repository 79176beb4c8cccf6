import ScriptProfiling.Literal.Fault
import ScriptProfiling.Number.Reading
import ScriptProfiling.Text.Identifier

/-!
# Tokens of literals

The text of an expression is cut into tokens, each with its line and the number of
brackets that are open behind it. A fault stands behind the tokens before it, because
a fault of the grammar that they show may come first.
-/
namespace ScriptProfiling
namespace Literal

inductive Token where
  /-- A name that is no keyword. -/
  | name (text : String)
  | number (written : List Char)
  /-- The letters before the first mark in lower case, and what the marks enclose. -/
  | text (letters body : List Char)
  /-- A keyword or a sign. -/
  | fixed (text : String)
  | lineEnd
  | indent
  | finish
  deriving DecidableEq, Repr

structure Placed where
  token : Token
  line : Nat
  depth : Nat
  /-- The text was found to end when the token was told from what follows it. -/
  meetsEnd : Bool

/-- An opening bracket and its line. -/
structure Bracket where
  opening : Char
  line : Nat

/-- What stands behind the last token. -/
inductive Ending where
  | complete
  | unclosed (innermost : Bracket)
  | strayBackslash (innermost : Option Bracket)
  | fault (cause : ExpressionFault)

/-- Where a text or a sign of three characters ends can be told without the character
that follows. -/
def Token.endsItself : Token → Bool
  | .text .. => true
  | .fixed w => ["...", "**=", "//=", "<<=", ">>="].contains w
  | _ => false

def keywords : List String :=
  ["False", "None", "True", "and", "as", "assert", "async", "await", "break", "class",
   "continue", "def", "del", "elif", "else", "except", "finally", "for", "from", "global", "if",
   "import", "in", "is", "lambda", "nonlocal", "not", "or", "pass", "raise", "return", "try",
   "while", "with", "yield"]

/-- Signs of more than one character, the longer ones first. -/
def longSigns : List String :=
  ["**=", "//=", "<<=", ">>=", "...", "!=", "%=", "&=", "**", "*=", "+=", "-=", "->", "//", "/=",
   ":=", "<<", "<=", "<>", "==", ">=", ">>", "@=", "^=", "|="]

/-- Letters that may stand before the first mark of a text. -/
def textLetters : List String := ["b", "br", "f", "fr", "r", "rb", "rf", "u"]

def isAsciiLetter (c : Char) : Bool := ('a' ≤ c && c ≤ 'z') || ('A' ≤ c && c ≤ 'Z')

/-- Whether a character may belong to a name; beyond the basic ones this is told later. -/
def mayBegin (c : Char) : Bool := isAsciiLetter c || c == '_' || 128 ≤ c.toNat

def mayFollow (c : Char) : Bool := mayBegin c || isAsciiDigit c

def isMark (c : Char) : Bool := c == '"' || c == '\x27'

def isSpacing (c : Char) : Bool := c == ' ' || c == '\t' || c.toNat == 12

/-- The first character of a name that no name may hold there. -/
def strangeChar? : List Char → Option Char
  | [] => none
  | c :: cs => if isIdentifierStart c then cs.find? (!isIdentifierChar ·) else some c

/-! ## Numbers -/

def decimalKind : String := "decimal"

/-- Keywords that may follow a number without a blank. -/
def followers : List String := ["and", "else", "for", "or", "not"]

/-- Beginnings of words that may follow a number without a blank. -/
def followerBeginnings : List String := ["if", "in", "is"]

def beginsWord (word : String) (cs : List Char) : Bool := word.toList.isPrefixOf cs

/-- A number ends where no name of basic characters goes on. -/
def endNumber (kind : String) (cs : List Char) : Except ExpressionFault (List Char) :=
  let follows := followerBeginnings.any (beginsWord · cs) ||
    followers.any fun w =>
      beginsWord w cs && !((cs.drop w.length).head?.map mayFollow).getD false
  if !follows && (cs.head?.map fun c => c.toNat < 128 && mayFollow c).getD false then
    .error (.badNumeral kind)
  else .ok cs

/-- What follows a run of digits and single underscores between them, or the rest that
breaks the rule. -/
def afterDigits (digit : Char → Bool) : List Char → Except (List Char) (List Char)
  | [] => .ok []
  | c :: cs =>
    if digit c then afterDigits digit cs
    else if c = '_' then
      match cs with
      | d :: more => if digit d then afterDigits digit more else .error cs
      | [] => .error []
    else .ok (c :: cs)

def badDigits (kind : String) (cs : List Char) : ExpressionFault :=
  match cs with
  | c :: _ => if isAsciiDigit c then .badDigit c kind else .badNumeral kind
  | [] => .badNumeral kind

/-- What follows a number behind the letter of its base. -/
def afterBase (kind : String) (digit : Char → Bool) (cs : List Char) :
    Except ExpressionFault (List Char) :=
  let digits := if cs.head? = some '_' then cs.drop 1 else cs
  match digits with
  | c :: more =>
    if digit c then
      match afterDigits digit more with
      | .ok rest =>
        if (rest.head?.map isAsciiDigit).getD false then .error (badDigits kind rest)
        else endNumber kind rest
      | .error rest => .error (badDigits kind rest)
    else .error (badDigits kind digits)
  | [] => .error (.badNumeral kind)

def afterDecimals (cs : List Char) : Except ExpressionFault (List Char) :=
  (afterDigits isAsciiDigit cs).mapError fun _ => .badNumeral decimalKind

/-- What follows the letter of an imaginary number, or the end of a real one. -/
def afterReal (cs : List Char) : Except ExpressionFault (List Char) :=
  match cs with
  | c :: more =>
    if c = 'j' ∨ c = 'J' then endNumber "imaginary" more else endNumber decimalKind cs
  | [] => .ok []

/-- What follows the exponent of a number, if it has one. -/
def afterExponent (cs : List Char) : Except ExpressionFault (List Char) :=
  match cs with
  | c :: more =>
    if c = 'e' ∨ c = 'E' then
      match more with
      | s :: rest =>
        if s = '+' ∨ s = '-' then
          if (rest.head?.map isAsciiDigit).getD false then do afterReal (← afterDecimals rest)
          else .error (.badNumeral decimalKind)
        else if isAsciiDigit s then do afterReal (← afterDecimals more)
        else endNumber decimalKind cs
      | [] => endNumber decimalKind cs
    else afterReal cs
  | [] => .ok []

/-- What follows the point of a number. -/
def afterPoint (cs : List Char) : Except ExpressionFault (List Char) :=
  if (cs.head?.map isAsciiDigit).getD false then do afterExponent (← afterDecimals cs)
  else afterExponent cs

def isHexDigit (c : Char) : Bool :=
  isAsciiDigit c || ('a' ≤ c && c ≤ 'f') || ('A' ≤ c && c ≤ 'F')

/-- What follows a decimal number. One that begins with zeros and is no fraction has no
other digits. -/
def afterDecimal (cs : List Char) : Except ExpressionFault (List Char) := do
  let rest ← afterDecimals cs
  let written := cs.take (cs.length - rest.length)
  match rest with
  | '.' :: more => afterPoint more
  | c :: _ =>
    if ['e', 'E', 'j', 'J'].contains c then afterExponent rest
    else if misled written then .error .leadingZeros
    else afterExponent rest
  | [] => if misled written then .error .leadingZeros else .ok []
where
  misled (written : List Char) : Bool :=
    written.head? == some '0' && written.any fun c => '1' ≤ c && c ≤ '9'

/-- What follows a number that begins with a digit or with a point before one. -/
def afterNumber (cs : List Char) : Except ExpressionFault (List Char) :=
  match cs with
  | '.' :: more => afterPoint more
  | '0' :: c :: more =>
    if c = 'x' ∨ c = 'X' then afterBase "hexadecimal" isHexDigit more
    else if c = 'o' ∨ c = 'O' then afterBase "octal" (fun d => '0' ≤ d && d < '8') more
    else if c = 'b' ∨ c = 'B' then afterBase "binary" (fun d => d == '0' || d == '1') more
    else afterDecimal cs
  | _ => afterDecimal cs

def beginsNumber (cs : List Char) : Bool :=
  match cs with
  | '.' :: d :: _ => isAsciiDigit d
  | c :: _ => isAsciiDigit c
  | [] => false

/-! ## Texts -/

structure ClosedText where
  body : List Char
  rest : List Char
  line : Nat

/-- The text up to its closing mark, or the line on which it is found to have none. -/
def closeText (mark : Char) (long : Bool) (line : Nat) (body : List Char) :
    List Char → Except Nat ClosedText
  | [] => .error line
  | ['\\'] => .error line
  | '\\' :: c :: cs =>
    closeText mark long (if c = '\n' then line + 1 else line) (c :: '\\' :: body) cs
  | c :: cs =>
    if c = mark && !long then .ok ⟨body.reverse, cs, line⟩
    else if c = mark && [mark, mark].isPrefixOf cs then .ok ⟨body.reverse, cs.drop 2, line⟩
    else if c = '\n' then
      if long then closeText mark long (line + 1) (c :: body) cs else .error line
    else closeText mark long line (c :: body) cs

/-- The text behind its first mark. -/
def readText (mark : Char) (line : Nat) (cs : List Char) : Except ExpressionFault ClosedText :=
  let long := [mark, mark].isPrefixOf cs
  (closeText mark long line [] (if long then cs.drop 2 else cs)).mapError (.unterminated long)

/-! ## All tokens -/

/-- How many brackets may be open at once. -/
def depthLimit : Nat := 200

structure Scanner where
  line : Nat
  brackets : List Bracket
  /-- Nothing but blanks stands before on this line. -/
  fresh : Bool

inductive Step where
  | token (t : Token) (next : Scanner) (rest : List Char)
  | skip (next : Scanner) (rest : List Char)
  | stop (e : Ending)

namespace Scanner

def start : Scanner := ⟨1, [], true⟩

def give (s : Scanner) (t : Token) (rest : List Char) : Step :=
  .token t { s with fresh := false } rest

def closingOf (opening : Char) : Char := if opening = '(' then ')' else '}'

/-- A bracket or another sign of one character. -/
def sign (s : Scanner) (c : Char) (rest : List Char) : Step :=
  let token := Token.fixed (String.singleton c)
  if c = '(' ∨ c = '{' then
    if s.brackets.length < depthLimit then
      { s with brackets := ⟨c, s.line⟩ :: s.brackets }.give token rest
    else .stop (.fault .tooDeep)
  else if c = ')' ∨ c = '}' then
    match s.brackets with
    | [] => .stop (.fault (.unopened c))
    | b :: outer =>
      if closingOf b.opening = c then { s with brackets := outer }.give token rest
      else .stop (.fault (.mismatched c b.opening (if b.line = s.line then none else some b.line)))
  else if isPrintable c then s.give token rest
  else .stop (.fault (.strangeCharacter c))

def quotedText (s : Scanner) (letters : List Char) (mark : Char) (rest : List Char) : Step :=
  match readText mark s.line rest with
  | .ok t => { s with line := t.line }.give (.text letters t.body) t.rest
  | .error cause => .stop (.fault cause)

def word (s : Scanner) (cs : List Char) : Step :=
  let run := cs.takeWhile mayFollow
  let rest := cs.drop run.length
  let small := run.map Char.toLower
  match rest with
  | mark :: more =>
    if isMark mark && textLetters.contains (String.ofList small) then s.quotedText small mark more
    else plain run rest
  | [] => plain run rest
where
  plain (run rest : List Char) : Step :=
    match strangeChar? run with
    | some c => .stop (.fault (.strangeCharacter c))
    | none =>
      let text := String.ofList run
      s.give (if keywords.contains text then .fixed text else .name text) rest

/-- The first token of a text that begins with no blank. -/
def first (s : Scanner) (cs : List Char) : Step :=
  match cs with
  | [] =>
    match s.brackets with
    | [] => .stop .complete
    | b :: _ => .stop (.unclosed b)
  | '#' :: _ => .skip s (cs.dropWhile (· != '\n'))
  | '\n' :: rest =>
    let next := { s with line := s.line + 1, fresh := true }
    if s.fresh || !s.brackets.isEmpty then .skip next rest else .token .lineEnd next rest
  | '\\' :: '\n' :: rest => .skip { s with line := s.line + 1 } rest
  | '\\' :: _ => .stop (.strayBackslash s.brackets.head?)
  | c :: rest =>
    if mayBegin c then s.word cs
    else if beginsNumber cs then
      match afterNumber cs with
      | .ok rest => s.give (.number (cs.take (cs.length - rest.length))) rest
      | .error cause => .stop (.fault cause)
    else if isMark c then s.quotedText [] c rest
    else
      match longSigns.find? fun w => w.toList.isPrefixOf cs with
      | some w => s.give (.fixed w) (cs.drop w.length)
      | none => s.sign c rest

/-- Whether a line has blanks before its first token. A form feed begins it anew. -/
def isIndented (blanks rest : List Char) : Bool :=
  (blanks.getLast?.map fun c => c == ' ' || c == '\t').getD false &&
    match rest with
    | [] => false
    | '\\' :: more => more.head? == some '\n'
    | c :: _ => c != '#' && c != '\n'

/-- The next token. Blanks before the first one of a line are one of their own, unless
brackets are open. -/
def step (s : Scanner) (cs : List Char) : Step :=
  let blanks := cs.takeWhile isSpacing
  let rest := cs.drop blanks.length
  if s.fresh && s.brackets.isEmpty && isIndented blanks rest then s.give .indent rest
  else s.first rest

/-- All tokens; the fuel bounds the number of steps, each of which passes a character. -/
def tokens (s : Scanner) (found : List Placed) : Nat → List Char → List Placed × Ending
  | 0, _ => (found.reverse, .complete)
  | fuel + 1, cs =>
    match s.step cs with
    | .token t next rest =>
      let meetsEnd := rest.isEmpty && !t.endsItself
      next.tokens (⟨t, s.line, next.brackets.length, meetsEnd⟩ :: found) fuel rest
    | .skip next rest => next.tokens found fuel rest
    | .stop .complete => ((⟨.finish, s.line, 0, true⟩ :: found).reverse, .complete)
    | .stop e => (found.reverse, e)

end Scanner

/-- One line end for each way to write it. -/
def plainLineEnds : List Char → List Char
  | '\r' :: '\n' :: cs => '\n' :: plainLineEnds cs
  | '\r' :: cs => '\n' :: plainLineEnds cs
  | c :: cs => c :: plainLineEnds cs
  | [] => []

/-- The tokens of a text, and what stands behind them. -/
def tokens (cs : List Char) : List Placed × Ending :=
  let cs := plainLineEnds cs
  Scanner.start.tokens [] (cs.length + 1) cs

end Literal
end ScriptProfiling
