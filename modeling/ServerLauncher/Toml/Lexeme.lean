import ServerLauncher.Json.Quoted
import ServerLauncher.Text.Pieces

/-!
This module contains the reading of the smallest parts of a TOML document: white space, comments,
line breaks and strings. A reading function takes the characters that are left and returns what it
read together with the characters behind that.
-/

namespace ServerLauncher.Toml

/--
White space within a line.
-/
def isSpace (c : Char) : Bool :=
  c = ' ' || c = '\t'

def skipSpace (cs : List Char) : List Char :=
  cs.dropWhile isSpace

/--
The characters that comments and strings may hold as they are: all but control characters, of which
only the tab is allowed.
-/
def isPlain (c : Char) : Bool :=
  c = '\t' || (0x20 ≤ c.toNat && c.toNat ≠ 0x7f)

/--
What follows a line break at the front.
-/
def afterBreak? : List Char → Option (List Char)
  | '\n' :: rest => some rest
  | '\r' :: '\n' :: rest => some rest
  | _ => none

/--
Skip a comment, if there is one, up to the end of its line.
-/
def skipComment : List Char → List Char
  | '#' :: rest => rest.dropWhile isPlain
  | cs => cs

/--
Skip the white space and the comment at the end of a line, and the line break or the end of the
document behind them.
-/
def endLine? (cs : List Char) : Option (List Char) :=
  match skipComment (skipSpace cs) with
  | [] => some []
  | behind => afterBreak? behind

theorem afterBreak?_length {cs rest : List Char} (h : afterBreak? cs = some rest) :
    rest.length < cs.length := by
  unfold afterBreak? at h
  split at h
  . cases h
    exact Nat.lt_succ_self _
  . cases h
    exact Nat.lt_succ_of_lt (Nat.lt_succ_self _)
  . cases h

theorem length_dropWhile_le (p : Char → Bool) (cs : List Char) :
    (cs.dropWhile p).length ≤ cs.length := by
  induction cs with
  | nil => exact Nat.le_refl _
  | cons c cs ih =>
    rw [List.dropWhile_cons]
    split
    . exact Nat.le_succ_of_le ih
    . exact Nat.le_refl _

theorem skipComment_length_le (cs : List Char) : (skipComment cs).length ≤ cs.length := by
  unfold skipComment
  split
  . exact Nat.le_succ_of_le (length_dropWhile_le _ _)
  . exact Nat.le_refl _

/--
Skip white space, comments and line breaks.
-/
def skipLines (cs : List Char) : List Char :=
  let behind := skipComment (skipSpace cs)
  match _h : afterBreak? behind with
  | some rest => skipLines rest
  | none => behind
termination_by cs.length
decreasing_by
  exact Nat.lt_of_lt_of_le (afterBreak?_length _h)
    (Nat.le_trans (skipComment_length_le _) (length_dropWhile_le _ _))

/--
The escapes that consist of a backslash and one more character.
-/
def shortEscapes : List (Char × Char) :=
  [('b', '\x08'), ('t', '\t'), ('n', '\n'), ('f', '\x0c'), ('r', '\r'), ('e', '\x1b'), ('"', '"'),
    ('\\', '\\')]

/--
The number of hexadecimal digits behind the letter of an escape.
-/
def escapeDigits? : Char → Option Nat
  | 'x' => some 2
  | 'u' => some 4
  | 'U' => some 8
  | _ => none

/--
Read the part of an escape behind the backslash.
-/
def readEscape (cs : List Char) : Option (Char × List Char) :=
  match cs with
  | [] => none
  | letter :: rest =>
    match escapeDigits? letter with
    | none => (shortEscapes.lookup letter).map (·, rest)
    | some count =>
      match Json.hexNumber? (rest.take count) with
      | some n =>
        if count ≤ rest.length ∧ n.isValidChar then some (Char.ofNat n, rest.drop count) else none
      | none => none

theorem readEscape_length {cs rest : List Char} {c : Char} (h : readEscape cs = some (c, rest)) :
    rest.length < cs.length := by
  unfold readEscape at h
  split at h
  . cases h
  . split at h
    . obtain ⟨_, _, h⟩ := Option.map_eq_some_iff.1 h
      cases h
      exact Nat.lt_succ_self _
    . split at h
      . split at h
        . cases h
          rw [List.length_drop]
          exact Nat.lt_succ_of_le (Nat.sub_le _ _)
        . cases h
      . cases h

/--
Read a basic string behind its opening quote.
-/
def readBasic (cs : List Char) : Option (List Char × List Char) :=
  go [] cs
where
  /--
  Go on behind the characters in `inside`, of which the last comes first.
  -/
  go (inside cs : List Char) : Option (List Char × List Char) :=
    match cs with
    | [] => none
    | '"' :: rest => some (inside.reverse, rest)
    | '\\' :: rest =>
      match _h : readEscape rest with
      | some (c, rest) => go (c :: inside) rest
      | none => none
    | c :: rest => if isPlain c then go (c :: inside) rest else none
  termination_by cs.length
  decreasing_by
    . exact Nat.lt_succ_of_lt (readEscape_length _h)
    . exact Nat.lt_succ_self _

/--
Read a literal string behind its opening apostrophe.
-/
def readLiteral (cs : List Char) : Option (List Char × List Char) :=
  match Text.cutAt '\x27' cs with
  | (inside, some rest) => if inside.all isPlain then some (inside, rest) else none
  | (_, none) => none

/--
A run of quotes inside a string that three of them close. Fewer than three belong to the string, and
so do up to two in front of the closing ones.
-/
inductive QuoteRun where
  | inside
  | closing (extra : Nat)
  | tooLong

/--
What a run of `count` quotes means.
-/
def QuoteRun.ofCount (count : Nat) : QuoteRun :=
  if count < 3 then .inside
  else if count ≤ 5 then .closing (count - 3)
  else .tooLong

/--
Skip white space and line breaks.
-/
def skipBlank : List Char → List Char
  | [] => []
  | '\r' :: '\n' :: rest => skipBlank rest
  | c :: rest => if isSpace c || c = '\n' then skipBlank rest else c :: rest

theorem skipBlank_length_le (cs : List Char) : (skipBlank cs).length ≤ cs.length := by
  fun_induction skipBlank cs with
  | case1 => exact Nat.le_refl _
  | case2 rest ih => exact Nat.le_succ_of_le (Nat.le_succ_of_le ih)
  | case3 c rest _ _ ih => exact Nat.le_succ_of_le ih
  | case4 c rest _ _ => exact Nat.le_refl _

/--
Skip white space and line breaks behind a backslash at the end of a line.
-/
def skipContinuation? (cs : List Char) : Option (List Char) :=
  (afterBreak? (skipSpace cs)).map skipBlank

theorem skipContinuation?_length {cs rest : List Char} (h : skipContinuation? cs = some rest) :
    rest.length < cs.length := by
  obtain ⟨_, hbreak, rfl⟩ := Option.map_eq_some_iff.1 h
  exact Nat.lt_of_le_of_lt (skipBlank_length_le _)
    (Nat.lt_of_lt_of_le (afterBreak?_length hbreak) (length_dropWhile_le _ _))

/--
Read a string with several lines behind its opening quotes. In a literal one, whose `quote` is an
apostrophe, backslashes mean nothing.
-/
def readMultiLine (quote : Char) (cs : List Char) : Option (List Char × List Char) :=
  go [] ((afterBreak? cs).getD cs)
where
  /--
  Go on behind the characters in `inside`, of which the last comes first.
  -/
  go (inside cs : List Char) : Option (List Char × List Char) :=
    match cs with
    | [] => none
    | '\r' :: '\n' :: rest => go ('\n' :: '\r' :: inside) rest
    | c :: rest =>
      if c = quote then
        let run := rest.takeWhile (· = quote)
        let behind := rest.dropWhile (· = quote)
        match QuoteRun.ofCount (run.length + 1) with
        | .inside => go (c :: run ++ inside) behind
        | .closing extra => some (inside.reverse ++ List.replicate extra quote, behind)
        | .tooLong => none
      else if c = '\\' && quote = '"' then
        match _h : skipContinuation? rest with
        | some rest => go inside rest
        | none =>
          match _h : readEscape rest with
          | some (c, rest) => go (c :: inside) rest
          | none => none
      else if isPlain c || c = '\n' then go (c :: inside) rest
      else none
  termination_by cs.length
  decreasing_by
    . exact Nat.lt_succ_of_lt (Nat.lt_succ_self _)
    . exact Nat.lt_succ_of_le (length_dropWhile_le _ _)
    . exact Nat.lt_succ_of_lt (skipContinuation?_length _h)
    . exact Nat.lt_succ_of_lt (readEscape_length _h)
    . exact Nat.lt_succ_self _

/--
Read a string on one line, which may be a key.
-/
def readQuoted? (cs : List Char) : Option (String × List Char) :=
  match cs with
  | '"' :: rest => (fun (inside, rest) => (String.ofList inside, rest)) <$> readBasic rest
  | '\x27' :: rest => (fun (inside, rest) => (String.ofList inside, rest)) <$> readLiteral rest
  | _ => none

/--
Read a string of any kind.
-/
def readString? (cs : List Char) : Option (String × List Char) :=
  match cs with
  | '"' :: '"' :: '"' :: rest =>
    (fun (inside, rest) => (String.ofList inside, rest)) <$> readMultiLine '"' rest
  | '\x27' :: '\x27' :: '\x27' :: rest =>
    (fun (inside, rest) => (String.ofList inside, rest)) <$> readMultiLine '\x27' rest
  | cs => readQuoted? cs

end ServerLauncher.Toml
