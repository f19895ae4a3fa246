import Narration.Text.Alphanumeric
import Narration.Text.Blank
/-! The tokens of the textual form of expressions and where they start. -/
namespace Narration.Expr

inductive Token where
  | ident (name : String)
  | str (value : String)
  | plus
  | comma
  | openBracket
  | closeBracket
  | openParen
  | closeParen
  | or
  | and
  | pause
  deriving DecidableEq, Repr, Inhabited

def Token.describe : Token → String
  | .ident name => "identifier '" ++ name ++ "'"
  | .str _ => "string"
  | .plus => "'+'"
  | .comma => "','"
  | .openBracket => "'['"
  | .closeBracket => "']'"
  | .openParen => "'('"
  | .closeParen => "')'"
  | .or => "'or'"
  | .and => "'and'"
  | .pause => "'pause'"

/-- What could have stood where a token does not fit. -/
inductive Expectation where
  | operand
  | closeParen
  | listItem
  | listEnd
  | endOfExpression
  deriving DecidableEq, Repr

def Expectation.describe : Expectation → String
  | .operand => "a quantity, literal, or '('"
  | .closeParen => "')'"
  | .listItem => "a string or 'pause'"
  | .listEnd => "',' or ']'"
  | .endOfExpression => "end of expression"

/-- Why a text is no expression; offsets count the bytes in front. `found` is `none` at the end. -/
inductive SyntaxError where
  | unexpectedChar (found : Char) (offset : Nat)
  | unterminatedString (offset : Nat)
  | expected (what : Expectation) (found : Option Token) (offset : Nat)
  deriving DecidableEq, Repr

def SyntaxError.message : SyntaxError → String
  | .unexpectedChar found offset =>
    "Unexpected character '" ++ String.singleton found ++ "' at offset " ++ toString offset
  | .unterminatedString offset => "Unterminated string starting at offset " ++ toString offset
  | .expected what found offset =>
    "Expected " ++ what.describe ++ " at offset " ++ toString offset ++ ", found " ++
      (match found with
        | some token => token.describe
        | none => "end of input")

/-- A token with the offset of its first byte. -/
structure Located where
  token : Token
  offset : Nat
  deriving DecidableEq, Repr

def byteCount (s : List Char) : Nat := s.foldr (fun c bytes => c.utf8Size + bytes) 0

def punctuation? (c : Char) : Option Token :=
  if c = '+' then some .plus
  else if c = ',' then some .comma
  else if c = '[' then some .openBracket
  else if c = ']' then some .closeBracket
  else if c = '(' then some .openParen
  else if c = ')' then some .closeParen
  else none

def isQuote (c : Char) : Bool := c = '"' || c = '\''

def startsWord (c : Char) : Bool := Text.isAlphabetic c || c = '_'

def continuesWord (c : Char) : Bool := Text.isAlphanumeric c || c = '_'

/-- Keywords are whole words. -/
def wordToken (word : String) : Token :=
  if word = "or" then .or
  else if word = "and" then .and
  else if word = "pause" then .pause
  else .ident word

/-- The character that stands for `c` behind a backslash. -/
def unescape (c : Char) : Char :=
  if c = 'n' then '\n'
  else if c = 't' then '\t'
  else if c = 'r' then '\r'
  else if c = '0' then '\x00'
  else c

/-- A string read up to its closing quote: its value, the bytes read, and the text behind it. -/
structure QuotedText where
  value : List Char
  bytes : Nat
  rest : List Char

def QuotedText.cons (c : Char) (bytes : Nat) (text : QuotedText) : QuotedText :=
  ⟨c :: text.value, bytes + text.bytes, text.rest⟩

/-- Reads behind the opening quote; `none` if no closing quote follows. -/
def readQuoted (quote : Char) : List Char → Option QuotedText
  | [] => none
  | c :: rest =>
    if c = '\\' then
      match rest with
      | [] => none
      | escaped :: rest =>
        (readQuoted quote rest).map (.cons (unescape escaped) (1 + escaped.utf8Size))
    else if c = quote then some ⟨[], c.utf8Size, rest⟩
    else (readQuoted quote rest).map (.cons c c.utf8Size)

theorem readQuoted_length {quote : Char} {s : List Char} {text : QuotedText}
    (read : readQuoted quote s = some text) : text.rest.length < s.length := by
  fun_induction readQuoted quote s generalizing text with
  | case1 => simp at read
  | case2 => simp at read
  | case3 escaped rest ih =>
    obtain ⟨inner, found, rfl⟩ := Option.map_eq_some_iff.mp read
    have := ih found
    simp only [QuotedText.cons, List.length_cons]
    omega
  | case4 rest =>
    cases read
    simp
  | case5 c rest _ _ ih =>
    obtain ⟨inner, found, rfl⟩ := Option.map_eq_some_iff.mp read
    have := ih found
    simp only [QuotedText.cons, List.length_cons]
    omega

theorem length_dropWhile_le (p : Char → Bool) (s : List Char) :
    (s.dropWhile p).length ≤ s.length := by
  induction s with
  | nil => simp
  | cons c s ih =>
    rw [List.dropWhile_cons]
    split
    · rw [List.length_cons]
      omega
    · exact Nat.le_refl _

/-- The tokens of a text whose first byte has the given offset. -/
def tokenize (offset : Nat) (s : List Char) : Except SyntaxError (List Located) :=
  match s with
  | [] => .ok []
  | c :: rest =>
    if Text.isBlank c then tokenize (offset + c.utf8Size) rest
    else
      match punctuation? c with
      | some token => (tokenize (offset + c.utf8Size) rest).map (⟨token, offset⟩ :: ·)
      | none =>
        if isQuote c then
          match _read : readQuoted c rest with
          | none => .error (.unterminatedString offset)
          | some text =>
            (tokenize (offset + c.utf8Size + text.bytes) text.rest).map
              (⟨.str (String.ofList text.value), offset⟩ :: ·)
        else if startsWord c then
          let word := c :: rest.takeWhile continuesWord
          (tokenize (offset + byteCount word) (rest.dropWhile continuesWord)).map
            (⟨wordToken (String.ofList word), offset⟩ :: ·)
        else .error (.unexpectedChar c offset)
termination_by s.length
decreasing_by
  all_goals simp_wf
  · have := readQuoted_length _read
    omega
  · have := length_dropWhile_le continuesWord rest
    omega

section Tokenize

variable {c : Char} {rest : List Char} {offset : Nat}

theorem tokenize_nil : tokenize offset [] = .ok [] := by
  rw [tokenize]

theorem tokenize_of_blank (blank : Text.isBlank c) :
    tokenize offset (c :: rest) = tokenize (offset + c.utf8Size) rest := by
  rw [tokenize, if_pos blank]

theorem tokenize_of_punctuation (dark : ¬ Text.isBlank c) {token : Token}
    (mark : punctuation? c = some token) :
    tokenize offset (c :: rest) =
      (tokenize (offset + c.utf8Size) rest).map (⟨token, offset⟩ :: ·) := by
  rw [tokenize, if_neg dark]
  simp only [mark]

theorem tokenize_of_quoted (dark : ¬ Text.isBlank c) (unmarked : punctuation? c = none)
    (quote : isQuote c) {text : QuotedText} (read : readQuoted c rest = some text) :
    tokenize offset (c :: rest) =
      (tokenize (offset + c.utf8Size + text.bytes) text.rest).map
        (⟨.str (String.ofList text.value), offset⟩ :: ·) := by
  rw [tokenize, if_neg dark]
  simp only [unmarked, if_pos quote]
  split
  · simp_all
  · rename_i other found
    obtain rfl : other = text := by simpa [found] using read
    rfl

theorem tokenize_of_word (dark : ¬ Text.isBlank c) (unmarked : punctuation? c = none)
    (unquoted : ¬ isQuote c) (starts : startsWord c) :
    tokenize offset (c :: rest) =
      (tokenize (offset + byteCount (c :: rest.takeWhile continuesWord))
        (rest.dropWhile continuesWord)).map
        (⟨wordToken (String.ofList (c :: rest.takeWhile continuesWord)), offset⟩ :: ·) := by
  rw [tokenize, if_neg dark]
  simp only [unmarked, if_neg unquoted, if_pos starts]

end Tokenize

end Narration.Expr
