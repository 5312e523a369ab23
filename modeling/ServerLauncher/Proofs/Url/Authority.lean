import ServerLauncher.Proofs.Url.Hosts

/-!
This module contains lemmas about authorities: one that has been read is written in a form that reads
back as itself.
-/

namespace ServerLauncher.Url

variable {special inBrackets : Bool} {scheme : String} {cs inside behind rest : List Char} {c : Char}

section Splitting

theorem not_endsAuthority_of_not_breaksHost (h : breaksHost c = false) (special : Bool) :
    endsAuthority special c = false := by
  simp [breaksHost] at h
  simp [endsAuthority, h]

/--
A character in the middle of an authority.
-/
structure IsInside (special : Bool) (c : Char) : Prop where
  notEnd : endsAuthority special c = false
  visible : 0x20 < c.toNat

theorem isInside_of_not_breaksHost (h : breaksHost c = false) (special : Bool) :
    IsInside special c := by
  refine ⟨not_endsAuthority_of_not_breaksHost h special, ?_⟩
  simp [breaksHost] at h
  exact h.1

theorem isInside_of_mem_host (h : HasHostForm cs) (hc : c ∈ cs) (special : Bool) :
    IsInside special c ∧ c ≠ '@' := by
  have hplain : ∀ c, breaksHost c = false → IsInside special c ∧ c ≠ '@' := by
    intro c hc
    refine ⟨isInside_of_not_breaksHost hc special, ?_⟩
    intro hat
    rw [hat] at hc
    exact absurd hc (by decide)
  have hbracket : ∀ c ∈ ['[', ']', ':'], IsInside special c ∧ c ≠ '@' := by
    simp only [List.forall_mem_cons]
    refine ⟨?_, ?_, ?_, ?_⟩
    . exact ⟨⟨by simp [endsAuthority], by decide⟩, by decide⟩
    . exact ⟨⟨by simp [endsAuthority], by decide⟩, by decide⟩
    . exact ⟨⟨by simp [endsAuthority], by decide⟩, by decide⟩
    . intro c hc
      cases hc
  rcases h with havoids | ⟨inside, heq, hinside⟩
  . exact hplain c (havoids c hc)
  . rw [heq] at hc
    simp only [List.mem_cons, List.mem_append, List.not_mem_nil, or_false] at hc
    rcases hc with hc | hc | hc
    . exact hbracket c (by simp [hc])
    . rcases hinside c hc with hcolon | hnot
      . exact hbracket c (by simp [hcolon])
      . exact hplain c hnot
    . exact hbracket c (by simp [hc])

theorem splitHost_of_head (h : ∀ c ∈ behind.head?, endsAuthority special c ∨ c = ':') :
    splitHost special false behind = ([], behind) := by
  cases behind with
  | nil => rfl
  | cons c rest =>
    unfold splitHost
    rw [if_pos]
    simpa using h c rfl

theorem splitHost_cons (hends : endsAuthority special c = false) (hcolon : c = ':' → inBrackets)
    (cs : List Char) :
    splitHost special inBrackets (c :: cs) =
      let inBrackets := if c = '[' then true else if c = ']' then false else inBrackets
      (c :: (splitHost special inBrackets cs).1, (splitHost special inBrackets cs).2) := by
  rw [splitHost]
  rw [if_neg]
  simpa [hends] using hcolon

theorem splitHost_plain (havoids : Avoids breaksHost cs) (behind : List Char) :
    splitHost special false (cs ++ behind) =
      (cs ++ (splitHost special false behind).1, (splitHost special false behind).2) := by
  induction cs with
  | nil => rfl
  | cons c rest ih =>
    have ⟨hc, hrest⟩ := List.forall_mem_cons.1 havoids
    have hne : c ≠ ':' ∧ c ≠ '[' ∧ c ≠ ']' := by
      simp [breaksHost] at hc
      simp [hc]
    rw [List.cons_append]
    rw [splitHost_cons (not_endsAuthority_of_not_breaksHost hc special)
      (fun hcolon => absurd hcolon hne.1)]
    rw [if_neg hne.2.1, if_neg hne.2.2]
    dsimp only
    rw [ih hrest]
    rfl

theorem splitHost_brackets (h : ∀ c ∈ inside, c = ':' ∨ breaksHost c = false)
    (behind : List Char) :
    splitHost special true (inside ++ ']' :: behind) =
      (inside ++ ']' :: (splitHost special false behind).1, (splitHost special false behind).2) := by
  induction inside with
  | nil =>
    rw [List.nil_append]
    rw [splitHost_cons (by simp [endsAuthority]) (by simp)]
    rfl
  | cons c rest ih =>
    have ⟨hc, hrest⟩ := List.forall_mem_cons.1 h
    have hends : endsAuthority special c = false ∧ c ≠ '[' ∧ c ≠ ']' := by
      rcases hc with hcolon | hnot
      . rw [hcolon]
        simp [endsAuthority]
      . refine ⟨not_endsAuthority_of_not_breaksHost hnot special, ?_⟩
        simp [breaksHost] at hnot
        simp [hnot]
    rw [List.cons_append]
    rw [splitHost_cons hends.1 (fun _ => rfl)]
    rw [if_neg hends.2.1, if_neg hends.2.2]
    dsimp only
    rw [ih hrest]
    rfl

/--
A host is split from what is behind it.
-/
theorem splitHost_append (h : HasHostForm cs)
    (hbehind : ∀ c ∈ behind.head?, endsAuthority special c ∨ c = ':') :
    splitHost special false (cs ++ behind) = (cs, behind) := by
  have hsplit := splitHost_of_head hbehind
  rcases h with havoids | ⟨inside, heq, hinside⟩
  . rw [splitHost_plain havoids]
    rw [hsplit]
    simp
  . rw [heq]
    rw [List.cons_append, List.append_assoc]
    rw [splitHost_cons (by simp [endsAuthority]) (by simp)]
    dsimp only
    rw [if_pos rfl]
    rw [List.singleton_append]
    rw [splitHost_brackets hinside]
    rw [hsplit]

end Splitting

section Ports

variable {port : Nat}

theorem eq_of_endsAuthority (h : endsAuthority special c) :
    c = '/' ∨ c = '?' ∨ c = '#' ∨ c = '\\' := by
  simp [endsAuthority] at h
  tauto

/--
A port that is written reads back, unless it is the usual one.
-/
theorem readPort_toDigits (hport : port < 65536) (husual : usualPorts.lookup scheme ≠ some port)
    (hrest : ∀ c ∈ rest.head?, endsAuthority special c) :
    readPort scheme (Nat.toDigits 10 port ++ rest) = .ok (some port, rest) := by
  have hdigits : ∀ c ∈ Nat.toDigits 10 port, c.isDigit := by
    intro c hc
    exact Nat.isDigit_of_mem_toDigits (by decide) (by decide) hc
  have hstop : ∀ c ∈ rest.head?, c.isDigit = false ∧ endsAuthority true c := by
    intro c hc
    rcases eq_of_endsAuthority (hrest c hc) with h | h | h | h
    all_goals
      rw [h]
      decide
  have hnumber : Text.numberBelow? 65536 (Nat.toDigits 10 port) = some port :=
    Text.numberBelow?_eq_some_iff.2 ⟨Nat.ofDigitChars_ten_toDigits, hport⟩
  have hne : (Nat.toDigits 10 port).isEmpty = false := by simp
  have hends : rest.head?.all (endsAuthority true) := by
    rw [Option.all_eq_true]
    intro c hc
    exact (hstop c hc).2
  unfold readPort
  rw [Text.takeWhile_append_of_stop hdigits (fun c hc => (hstop c hc).1)]
  rw [Text.dropWhile_append_of_stop hdigits (fun c hc => (hstop c hc).1)]
  dsimp only
  rw [hnumber]
  dsimp only
  rw [if_pos hends]
  rw [hne]
  rw [if_neg (by simpa using husual)]

theorem readPort_eq_ok {found : Option Nat} (h : readPort scheme cs = .ok (found, rest)) :
    ∀ port ∈ found, port < 65536 ∧ usualPorts.lookup scheme ≠ some port := by
  intro port hport
  unfold readPort at h
  dsimp only at h
  split at h
  . cases h
  . next number hnumber =>
    split at h
    . cases h
      split at hport
      . cases hport
      . next husual =>
        cases hport
        simp only [Bool.or_eq_true, decide_eq_true_eq, not_or] at husual
        exact ⟨(Text.numberBelow?_eq_some_iff.1 hnumber).2, husual.2⟩
    . cases h

end Ports

section Phases

/--
The part of an authority behind its last at sign.
-/
def hostPart (inside : List Char) : List Char :=
  (inside.reverse.takeWhile (· ≠ '@')).reverse

/--
The part of an authority in front of its last at sign.
-/
def userPart (inside : List Char) : List Char :=
  inside.take (inside.length - (hostPart inside).length - 1)

/--
Read what is behind the host of an authority.
-/
def readBehindHost (scheme : String) (user : String × String) (host : String) (cs : List Char) :
    Except ParseError (Authority × List Char) := do
  match cs with
  | ':' :: rest =>
    if host = "" then throw .emptyHost
    let (port, rest) ← readPort scheme rest
    return (⟨user.1, user.2, host, port⟩, rest)
  | rest =>
    if host = "" ∧ (user.1 ≠ "" ∨ user.2 ≠ "") then throw .emptyHost
    return (⟨user.1, user.2, host, none⟩, rest)

theorem readBehindHost_colon (scheme : String) (user : String × String) {host : String}
    (h : host ≠ "") (cs : List Char) :
    readBehindHost scheme user host (':' :: cs) =
      (readPort scheme cs).map fun found => (⟨user.1, user.2, host, found.1⟩, found.2) := by
  have heq : readBehindHost scheme user host (':' :: cs) =
      if host = "" then .error .emptyHost
      else (do
        let found ← readPort scheme cs
        return (⟨user.1, user.2, host, found.1⟩, found.2)) := rfl
  rw [heq]
  rw [if_neg h]
  cases readPort scheme cs <;> rfl

theorem readBehindHost_of_ne (scheme : String) (user : String × String) (host : String)
    {cs : List Char} (hcolon : ∀ rest, cs ≠ ':' :: rest) :
    readBehindHost scheme user host cs =
      if host = "" ∧ (user.1 ≠ "" ∨ user.2 ≠ "") then .error .emptyHost
      else .ok (⟨user.1, user.2, host, none⟩, cs) := by
  unfold readBehindHost
  split
  . next rest => exact absurd rfl (hcolon rest)
  . rfl

/--
Read an authority that is cut off from what is behind it.
-/
def readInside (scheme : String) (inside behind : List Char) :
    Except ParseError (Authority × List Char) :=
  let special := isSpecialScheme scheme
  let user := if inside.contains '@' then readUser (userPart inside) else ("", "")
  let (hostChars, rest) := splitHost special false (hostPart inside ++ behind)
  if inside.contains '@' ∧ (userPart inside).isEmpty ∧ (hostPart inside).isEmpty ∧
      !behind.isEmpty then .error .emptyHost
  else if special ∧ hostChars.isEmpty then .error .emptyHost
  else (readHost special hostChars).bind fun host => readBehindHost scheme user host rest

theorem readAuthority_eq (scheme : String) (cs : List Char) :
    readAuthority scheme cs =
      readInside scheme (cs.takeWhile fun c => !endsAuthority (isSpecialScheme scheme) c)
        (cs.dropWhile fun c => !endsAuthority (isSpecialScheme scheme) c) := by
  unfold readAuthority readInside userPart hostPart
  dsimp only
  generalize isSpecialScheme scheme = special
  generalize cs.takeWhile _ = inside
  generalize cs.dropWhile _ = behind
  generalize (inside.reverse.takeWhile (· ≠ '@')).reverse = hostPart
  generalize inside.take (inside.length - hostPart.length - 1) = userPart
  generalize (if inside.contains '@' then readUser userPart else ("", "")) = user
  rcases splitHost special false (hostPart ++ behind) with ⟨hostChars, rest⟩
  rcases user with ⟨username, password⟩
  dsimp only
  split
  . rfl
  . split
    . rfl
    . cases special <;> rfl

end Phases

section Users

variable {a : Authority}

/--
The user name and password in front of the host, with the at sign.
-/
def Authority.userChars (a : Authority) : List Char :=
  if a.username = "" ∧ a.password = "" then []
  else a.username.toList ++ (if a.password = "" then [] else ':' :: a.password.toList) ++ ['@']

/--
The port behind the host, with the colon.
-/
def portChars (port : Option Nat) : List Char :=
  match port with
  | none => []
  | some port => ':' :: Nat.toDigits 10 port

theorem Authority.toList_text (a : Authority) :
    a.text.toList = '/' :: '/' :: (a.userChars ++ (a.host.toList ++ portChars a.port)) := by
  have hport : (partText ":" (a.port.map toString)).toList = portChars a.port := by
    cases a.port with
    | none => rfl
    | some port => simp [partText, portChars]
  unfold text userChars
  simp only [String.toList_append, hport]
  by_cases husername : a.username = ""
  . by_cases hpassword : a.password = ""
    . simp [husername, hpassword]
    . simp [husername, hpassword]
  . by_cases hpassword : a.password = ""
    . simp [husername, hpassword]
    . simp [husername, hpassword]

/--
An authority in the form that reading one leads to.
-/
structure Authority.IsWritten (scheme : String) (a : Authority) : Prop where
  username : Avoids inUserSet a.username.toList
  password : Avoids inUserSet a.password.toList
  host : ∃ cs, readHost (isSpecialScheme scheme) cs = .ok a.host
  port : ∀ port ∈ a.port, port < 65536 ∧ usualPorts.lookup scheme ≠ some port
  bare : a.host = "" → a.username = "" ∧ a.password = "" ∧ a.port = none

theorem readUser_append (husername : Avoids inUserSet a.username.toList)
    (hpassword : Avoids inUserSet a.password.toList) :
    readUser (a.username.toList ++ (if a.password = "" then [] else ':' :: a.password.toList)) =
      (a.username, a.password) := by
  have hcolon : ':' ∉ a.username.toList := by
    intro hmem
    exact absurd (husername ':' hmem) (by decide)
  by_cases hempty : a.password = ""
  . rw [if_pos hempty]
    rw [List.append_nil]
    unfold readUser
    rw [Text.cutAt_of_not_mem hcolon]
    simp [encode_of_avoids husername, hempty]
  . rw [if_neg hempty]
    unfold readUser
    rw [Text.cutAt_fst_append hcolon]
    simp [encode_of_avoids husername, encode_of_avoids hpassword]

/--
What is in front of the last at sign, if there is one, and what is behind it.
-/
theorem takeWhile_reverse_append {front back : List Char} (hback : '@' ∉ back)
    (hfront : front = [] ∨ front.getLast? = some '@') :
    ((front ++ back).reverse.takeWhile (· ≠ '@')).reverse = back := by
  rw [List.reverse_append]
  rw [Text.takeWhile_append_of_stop]
  . exact List.reverse_reverse back
  . intro c hc
    have hne : c ≠ '@' := by
      intro heq
      exact hback (heq ▸ List.mem_reverse.1 hc)
    exact decide_eq_true hne
  . intro c hc
    rw [List.head?_reverse] at hc
    rcases hfront with hnil | hlast
    . rw [hnil] at hc
      cases hc
    . rw [hlast] at hc
      cases hc
      rfl

/--
The user of an authority is in front of the last at sign, where there is one.
-/
theorem userPart_userChars {cs : List Char} (husername : Avoids inUserSet a.username.toList)
    (hpassword : Avoids inUserSet a.password.toList) (hcs : '@' ∉ cs) :
    hostPart (a.userChars ++ cs) = cs ∧
      (if (a.userChars ++ cs).contains '@' then readUser (userPart (a.userChars ++ cs))
        else ("", "")) = (a.username, a.password) ∧
      ¬((a.userChars ++ cs).contains '@' ∧ (userPart (a.userChars ++ cs)).isEmpty) := by
  by_cases hnone : a.username = "" ∧ a.password = ""
  . have huser : a.userChars = [] := if_pos hnone
    have hcontains : cs.contains '@' = false := by simpa using hcs
    rw [huser]
    rw [List.nil_append]
    refine ⟨takeWhile_reverse_append hcs (.inl rfl), ?_, ?_⟩
    . rw [hcontains]
      rw [hnone.1, hnone.2]
      rfl
    . rw [hcontains]
      simp
  . have huser : a.userChars =
        a.username.toList ++ (if a.password = "" then [] else ':' :: a.password.toList) ++ ['@'] :=
      if_neg hnone
    have hread := readUser_append husername hpassword
    have hne : (a.username.toList ++ if a.password = "" then [] else ':' :: a.password.toList) ≠ [] := by
      intro hnil
      have ⟨hname, hrest⟩ := List.append_eq_nil_iff.1 hnil
      split at hrest
      . next hempty => exact hnone ⟨by simpa using hname, hempty⟩
      . cases hrest
    generalize (a.username.toList ++ if a.password = "" then [] else ':' :: a.password.toList) =
      user at huser hread hne
    have hhost : hostPart (a.userChars ++ cs) = cs := by
      apply takeWhile_reverse_append hcs
      rw [huser]
      exact .inr List.getLast?_concat
    have hpart : userPart (a.userChars ++ cs) = user := by
      unfold userPart
      rw [hhost]
      rw [huser]
      have hlength : (user ++ ['@'] ++ cs).length - cs.length - 1 = user.length := by
        simp only [List.length_append, List.length_singleton]
        omega
      rw [hlength]
      rw [List.append_assoc]
      exact List.take_left' rfl
    have hcontains : (a.userChars ++ cs).contains '@' := by simp [huser]
    rw [hcontains, hpart]
    refine ⟨hhost, hread, ?_⟩
    simpa using hne

theorem mem_portChars {port : Option Nat} (h : c ∈ portChars port) : c = ':' ∨ c.isDigit := by
  cases port with
  | none => cases h
  | some port =>
    rcases List.mem_cons.1 h with h | h
    . exact .inl h
    . exact .inr (Nat.isDigit_of_mem_toDigits (by decide) (by decide) h)

theorem isInside_of_mem_portChars {port : Option Nat} (h : c ∈ portChars port) (special : Bool) :
    IsInside special c ∧ c ≠ '@' := by
  have hascii : ∀ n < 0x80, Char.ofNat n = ':' ∨ (Char.ofNat n).isDigit →
      (∀ special, endsAuthority special (Char.ofNat n) = false) ∧ 0x20 < (Char.ofNat n).toNat ∧
        Char.ofNat n ≠ '@' := by
    decide
  have hport := mem_portChars h
  have hlt : c.toNat < 0x80 := by
    rcases hport with hcolon | hdigit
    . rw [hcolon]
      decide
    . exact Text.toNat_lt_of_isDigit hdigit
  have ⟨hends, hvisible, hat⟩ := Text.forall_ascii
    (P := fun c => c = ':' ∨ c.isDigit →
      (∀ special, endsAuthority special c = false) ∧ 0x20 < c.toNat ∧ c ≠ '@') hascii hlt hport
  exact ⟨⟨hends special, hvisible⟩, hat⟩

theorem isInside_of_not_inUserSet (h : inUserSet c = false) (special : Bool) :
    IsInside special c := by
  refine ⟨?_, visible_of_not_inUserSet h⟩
  simp [inUserSet, inPathSet] at h
  simp [endsAuthority, h]

theorem isInside_of_mem_userChars (husername : Avoids inUserSet a.username.toList)
    (hpassword : Avoids inUserSet a.password.toList) (hc : c ∈ a.userChars) (special : Bool) :
    IsInside special c := by
  have hmark : ∀ c ∈ [':', '@'], IsInside special c := by
    simp only [List.forall_mem_cons]
    refine ⟨?_, ?_, ?_⟩
    . exact ⟨by simp [endsAuthority], by decide⟩
    . exact ⟨by simp [endsAuthority], by decide⟩
    . intro c hc
      cases hc
  unfold Authority.userChars at hc
  split at hc
  . cases hc
  . rcases List.mem_append.1 hc with hc | hc
    . rcases List.mem_append.1 hc with hc | hc
      . exact isInside_of_not_inUserSet (husername c hc) special
      . split at hc
        . cases hc
        . rcases List.mem_cons.1 hc with hc | hc
          . exact hmark c (by simp [hc])
          . exact isInside_of_not_inUserSet (hpassword c hc) special
    . rw [List.mem_singleton.1 hc]
      exact hmark '@' (by simp)

/--
An authority does not end before its end.
-/
theorem Authority.IsWritten.isInside (h : a.IsWritten scheme)
    (hc : c ∈ a.userChars ++ (a.host.toList ++ portChars a.port)) (special : Bool) :
    IsInside special c := by
  have ⟨cs, hcs⟩ := h.host
  simp only [List.mem_append] at hc
  rcases hc with hc | hc | hc
  . exact isInside_of_mem_userChars h.username h.password hc special
  . exact (isInside_of_mem_host (hasHostForm_of_readHost hcs) hc special).1
  . exact (isInside_of_mem_portChars hc special).1

theorem readBehindHost_portChars (h : a.IsWritten scheme)
    (hrest : ∀ c ∈ rest.head?, endsAuthority (isSpecialScheme scheme) c) :
    readBehindHost scheme (a.username, a.password) a.host (portChars a.port ++ rest) =
      .ok (a, rest) := by
  rcases a with ⟨username, password, host, port⟩
  cases port with
  | none =>
    have huser : ¬(host = "" ∧ (username ≠ "" ∨ password ≠ "")) := by
      rintro ⟨hhost, hne⟩
      have ⟨husername, hpassword, _⟩ := h.bare hhost
      rcases hne with hne | hne
      . exact hne husername
      . exact hne hpassword
    have hcolon : ∀ others, rest ≠ ':' :: others := by
      intro others heq
      rw [heq] at hrest
      have hends := hrest ':' rfl
      simp [endsAuthority] at hends
    have hread := readBehindHost_of_ne scheme (username, password) host hcolon
    rwa [if_neg huser] at hread
  | some port =>
    have ⟨hlt, husual⟩ := h.port port rfl
    have hhost : host ≠ "" := by
      intro hhost
      have ⟨_, _, hport⟩ := h.bare hhost
      cases hport
    have hread := readPort_toDigits hlt husual hrest
    change readBehindHost scheme (username, password) host
      (':' :: (Nat.toDigits 10 port ++ rest)) = _
    rw [readBehindHost_colon scheme _ hhost]
    rw [hread]
    rfl

/--
An authority in the form that reading one leads to is read back.
-/
theorem readAuthority_chars (h : a.IsWritten scheme)
    (hhost : readHost (isSpecialScheme scheme) a.host.toList = .ok a.host)
    (hrest : ∀ c ∈ rest.head?, endsAuthority (isSpecialScheme scheme) c) :
    readAuthority scheme (a.userChars ++ (a.host.toList ++ portChars a.port) ++ rest) =
      .ok (a, rest) := by
  have ⟨cs, hcs⟩ := h.host
  have hform := hasHostForm_of_readHost hcs
  have hinside : ∀ c ∈ a.userChars ++ (a.host.toList ++ portChars a.port),
      (!endsAuthority (isSpecialScheme scheme) c) = true := by
    intro c hc
    rw [(h.isInside hc (isSpecialScheme scheme)).notEnd]
    rfl
  have hstop : ∀ c ∈ rest.head?, (!endsAuthority (isSpecialScheme scheme) c) = false := by
    intro c hc
    rw [hrest c hc]
    rfl
  have hat : '@' ∉ a.host.toList ++ portChars a.port := by
    intro hmem
    rcases List.mem_append.1 hmem with hmem | hmem
    . exact (isInside_of_mem_host hform hmem true).2 rfl
    . exact (isInside_of_mem_portChars hmem true).2 rfl
  have hbehind : ∀ c ∈ (portChars a.port ++ rest).head?,
      endsAuthority (isSpecialScheme scheme) c ∨ c = ':' := by
    intro c hc
    cases hport : a.port with
    | none =>
      rw [hport] at hc
      exact .inl (hrest c hc)
    | some port =>
      rw [hport] at hc
      cases hc
      exact .inr rfl
  have hsplit : splitHost (isSpecialScheme scheme) false
      (a.host.toList ++ portChars a.port ++ rest) = (a.host.toList, portChars a.port ++ rest) := by
    rw [List.append_assoc]
    exact splitHost_append hform hbehind
  have ⟨hhostPart, huser, hnot⟩ := userPart_userChars h.username h.password hat
  have hempty : ¬(isSpecialScheme scheme ∧ a.host.toList.isEmpty) := by
    rintro ⟨hspecial, hempty⟩
    rw [hspecial] at hcs
    exact ne_empty_of_specialHost hcs (by simpa using hempty)
  rw [readAuthority_eq]
  rw [Text.takeWhile_append_of_stop hinside hstop, Text.dropWhile_append_of_stop hinside hstop]
  unfold readInside
  rw [hhostPart]
  dsimp only
  rw [huser]
  rw [hsplit]
  dsimp only
  rw [if_neg (fun hall => hnot ⟨hall.1, hall.2.1⟩)]
  rw [if_neg hempty]
  rw [hhost]
  exact readBehindHost_portChars h hrest

theorem avoids_readUser (cs : List Char) :
    Avoids inUserSet (readUser cs).1.toList ∧ Avoids inUserSet (readUser cs).2.toList := by
  unfold readUser
  simp only [String.toList_ofList]
  exact ⟨avoids_encode sparesEscapes_inUserSet _, avoids_encode sparesEscapes_inUserSet _⟩

theorem readBehindHost_eq_ok {user : String × String} {host : String}
    (h : readBehindHost scheme user host cs = .ok (a, rest)) :
    a.username = user.1 ∧ a.password = user.2 ∧ a.host = host ∧
      (∀ port ∈ a.port, port < 65536 ∧ usualPorts.lookup scheme ≠ some port) ∧
      (host = "" → user.1 = "" ∧ user.2 = "" ∧ a.port = none) := by
  by_cases hcolon : ∃ behind, cs = ':' :: behind
  . have ⟨behind, hcs⟩ := hcolon
    rw [hcs] at h
    by_cases hhost : host = ""
    . rw [hhost] at h
      cases h
    . rw [readBehindHost_colon scheme user hhost] at h
      cases hport : readPort scheme behind with
      | error e =>
        rw [hport] at h
        cases h
      | ok found =>
        rw [hport] at h
        cases h
        exact ⟨rfl, rfl, rfl, readPort_eq_ok hport, fun hempty => absurd hempty hhost⟩
  . have hne : ∀ behind, cs ≠ ':' :: behind := fun behind hcs => hcolon ⟨behind, hcs⟩
    rw [readBehindHost_of_ne scheme user host hne] at h
    split at h
    . cases h
    . next huser =>
      cases h
      refine ⟨rfl, rfl, rfl, ?_, ?_⟩
      . intro port hport
        cases hport
      . intro hhost
        simp only [hhost, true_and, not_or, ne_eq, not_not] at huser
        exact ⟨huser.1, huser.2, rfl⟩

/--
An authority is read in the form that is read back.
-/
theorem isWritten_of_readAuthority (h : readAuthority scheme cs = .ok (a, rest)) :
    a.IsWritten scheme := by
  rw [readAuthority_eq] at h
  generalize cs.takeWhile _ = inside at h
  generalize cs.dropWhile _ = behind at h
  unfold readInside at h
  have huser : ∀ user, user = (if inside.contains '@' then readUser (userPart inside)
      else ("", "")) → Avoids inUserSet user.1.toList ∧ Avoids inUserSet user.2.toList := by
    intro user heq
    rw [heq]
    split
    . exact avoids_readUser _
    . simp [Avoids]
  dsimp only at h
  generalize (if inside.contains '@' then readUser (userPart inside) else ("", "")) = user
    at h huser
  obtain ⟨husername, hpassword⟩ := huser user rfl
  generalize splitHost (isSpecialScheme scheme) false (hostPart inside ++ behind) = parts at h
  split at h
  . cases h
  . split at h
    . cases h
    . cases hhost : readHost (isSpecialScheme scheme) parts.1 with
      | error e =>
        rw [hhost] at h
        cases h
      | ok host =>
        rw [hhost] at h
        obtain ⟨hname, hword, hsame, hport, hbare⟩ := readBehindHost_eq_ok h
        constructor
        case username => rwa [hname]
        case password => rwa [hword]
        case host =>
          rw [hsame]
          exact ⟨parts.1, hhost⟩
        case port => exact hport
        case bare =>
          rw [hsame, hname, hword]
          exact hbare

end Users

end ServerLauncher.Url
