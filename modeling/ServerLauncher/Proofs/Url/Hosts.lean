import ServerLauncher.Proofs.Text.Fronts
import ServerLauncher.Proofs.Url.Addresses
import ServerLauncher.Url.Parser

/-!
This module contains lemmas about hosts: a host that has been read reads back as itself. Where that
depends on the tables of characters in domain names, it is taken for granted.
-/

namespace ServerLauncher.Url

/--
Whether a character ends a host or does not belong into one, unless it is within brackets.
-/
def breaksHost (c : Char) : Bool :=
  c.toNat ≤ 0x20 || ['/', '?', '#', '\\', '@', '|', ':', '[', ']'].contains c

/--
A host that is read as a whole.
-/
def HasHostForm (cs : List Char) : Prop :=
  Avoids breaksHost cs ∨
    ∃ inside, cs = '[' :: (inside ++ [']']) ∧ ∀ c ∈ inside, c = ':' ∨ breaksHost c = false

/--
A domain name that is clear without any table: it has neither capital letters nor characters outside
of ASCII, and no label is encoded.
-/
def isPlainDomain (cs : List Char) : Bool :=
  cs.all (fun c => Domain.isAscii c && c.toLower = c) &&
    (Text.pieces '.' cs).all fun label => (Text.afterFront? Domain.encodedFront label).isNone

/--
Read the host of a URL whose scheme is special or not.
-/
def readHost (special : Bool) (cs : List Char) : Except ParseError String :=
  if special then specialHost cs else otherHost cs

variable {special : Bool} {cs domain label : List Char} {host : String} {c : Char}

theorem toNat_lt_of_breaksHost (h : breaksHost c) : c.toNat < 0x80 := by
  unfold breaksHost at h
  rw [Bool.or_eq_true, decide_eq_true_eq] at h
  rcases h with h | h
  . omega
  . simp only [List.contains_eq_mem, decide_eq_true_eq, List.mem_cons, List.not_mem_nil,
      or_false] at h
    rcases h with h | h | h | h | h | h | h | h | h
    all_goals
      rw [h]
      decide

/--
What holds of the ASCII characters that break hosts holds of all characters that do.
-/
theorem not_breaksHost {P : Char → Prop}
    (h : ∀ n < 0x80, breaksHost (Char.ofNat n) → ¬P (Char.ofNat n)) (hc : P c) :
    breaksHost c = false := by
  rw [Bool.eq_false_iff]
  intro hbreaks
  exact Text.forall_ascii (P := fun c => breaksHost c → ¬P c) h (toNat_lt_of_breaksHost hbreaks)
    hbreaks hc

section Brackets

theorem mem_ipv6Text {groups : List Nat} (h : c ∈ ipv6Text groups) :
    c = ':' ∨ ∃ d < 16, c = Nat.digitChar d := by
  have hgroups : ∀ groups, c ∈ groupChars groups → c = ':' ∨ ∃ d < 16, c = Nat.digitChar d := by
    intro groups h
    rcases Text.mem_joinPieces h with h | ⟨digits, hdigits, hmem⟩
    . exact .inl h
    . have ⟨n, _, hn⟩ := List.mem_map.1 hdigits
      rw [← hn] at hmem
      exact .inr (isDigit_of_mem_toDigits_hex hmem)
  rw [ipv6Text_eq] at h
  split at h
  . exact hgroups _ h
  . rcases List.mem_append.1 h with h | h
    . exact hgroups _ h
    . simp only [List.mem_cons] at h
      rcases h with h | h | h
      . exact .inl h
      . exact .inl h
      . exact hgroups _ h

theorem exists_groups_of_ipv6 (h : specialHost.ipv6 cs = .ok host) :
    ∃ groups, host.toList = '[' :: (ipv6Text groups ++ [']']) ∧
      ipv6? (ipv6Text groups) = some groups := by
  unfold specialHost.ipv6 at h
  split at h
  . next groups _ hgroups =>
    cases h
    refine ⟨groups, ?_, ipv6?_ipv6Text_of_ipv6? hgroups⟩
    rw [String.toList_ofList]
    rfl
  . cases h

theorem hasHostForm_of_ipv6 (h : specialHost.ipv6 cs = .ok host) : HasHostForm host.toList := by
  have ⟨groups, hhost, _⟩ := exists_groups_of_ipv6 h
  refine .inr ⟨ipv6Text groups, hhost, ?_⟩
  intro c hc
  rcases mem_ipv6Text hc with hcolon | ⟨d, hd, hdigit⟩
  . exact .inl hcolon
  . have hdigits : ∀ d < 16, breaksHost (Nat.digitChar d) = false := by decide
    rw [hdigit]
    exact .inr (hdigits d hd)

theorem ipv6_tail_of_ipv6 (h : specialHost.ipv6 cs = .ok host) :
    host.toList.head? = some '[' ∧ specialHost.ipv6 host.toList.tail = .ok host := by
  have ⟨groups, hhost, hgroups⟩ := exists_groups_of_ipv6 h
  have hsame : String.ofList ('[' :: ipv6Text groups ++ [']']) = host := by
    rw [List.cons_append]
    rw [← hhost]
    rw [String.ofList_toList]
  rw [hhost]
  refine ⟨rfl, ?_⟩
  rw [List.tail_cons]
  unfold specialHost.ipv6
  rw [List.getLast?_concat, List.dropLast_concat]
  rw [hgroups]
  exact congrArg Except.ok hsame

end Brackets

section Domains

theorem isAscii_iff : Domain.isAscii c ↔ c.toNat < 0x80 :=
  decide_eq_true_iff

theorem isPlainDomain_iff :
    isPlainDomain cs ↔ (∀ c ∈ cs, c.toNat < 0x80 ∧ c.toLower = c) ∧
      ∀ label ∈ Text.pieces '.' cs, Text.afterFront? Domain.encodedFront label = none := by
  simp [isPlainDomain, isAscii_iff]

theorem decode_of_not_mem (h : '%' ∉ cs) : decode cs = cs.flatMap String.utf8EncodeChar := by
  induction cs with
  | nil => rfl
  | cons c rest ih =>
    simp only [List.mem_cons, not_or] at h
    rw [decode_cons_of_ne (Ne.symm h.1)]
    rw [ih h.2]
    rfl

theorem normal?_of_plain (h : ∀ c ∈ cs, c.toNat < 0x80 ∧ c.toLower = c) :
    Domain.normal? cs = some cs := by
  have hmeaning : ∀ c ∈ cs, Domain.meaning? c = some [c] := by
    intro c hc
    have ⟨hascii, hlower⟩ := h c hc
    unfold Domain.meaning?
    simp [hascii, hlower]
  have hcompose : Domain.compose cs = cs := by
    unfold Domain.compose
    rw [if_pos]
    rw [List.all_eq_true]
    intro c hc
    have hascii := (h c hc).1
    exact decide_eq_true (by omega)
  unfold Domain.normal?
  rw [Text.mapM_eq_some_map hmeaning]
  rw [Option.map_some]
  rw [← List.flatMap_def]
  rw [List.flatMap_singleton']
  rw [hcompose]

theorem ofChars?_of_plain (hascii : ∀ c ∈ label, c.toNat < 0x80)
    (hfront : Text.afterFront? Domain.encodedFront label = none) :
    Domain.Label.ofChars? label = some ⟨label, label⟩ := by
  unfold Domain.Label.ofChars?
  rw [hfront]
  dsimp only
  rw [if_pos]
  rw [List.all_eq_true]
  intro c hc
  exact isAscii_iff.2 (hascii c hc)

/--
ASCII characters are written from left to right.
-/
theorem keepDirections_of_ascii {labels : List (List Char)}
    (h : ∀ label ∈ labels, ∀ c ∈ label, c.toNat < 0x80) : Domain.keepDirections labels := by
  have hdirection : ∀ n < 0x80,
      Domain.Direction.fromRight.contains (.ofAscii (Char.ofNat n)) = false := by
    decide
  unfold Domain.keepDirections
  rw [if_neg]
  simp only [List.any_eq_true, not_exists, not_and, Bool.not_eq_true]
  intro label hlabel c hc
  have hascii := h label hlabel c hc
  unfold Domain.Direction.ofChar
  rw [if_pos hascii]
  exact Text.forall_ascii
    (P := fun c => Domain.Direction.fromRight.contains (.ofAscii c) = false) hdirection hascii

/--
A plain domain name is already in its ASCII form.
-/
theorem asciiDomain?_of_isPlainDomain (hplain : isPlainDomain cs)
    (hforbidden : Avoids isForbiddenInDomain cs) : asciiDomain? cs = some cs := by
  have ⟨hchars, hlabels⟩ := isPlainDomain_iff.1 hplain
  have hpercent : '%' ∉ cs := by
    intro h
    exact absurd (hforbidden '%' h) (by decide)
  have hascii : ∀ label ∈ Text.pieces '.' cs, ∀ c ∈ label, c.toNat < 0x80 := by
    intro label hlabel c hc
    exact (hchars c (Text.mem_of_mem_pieces hlabel hc)).1
  have hread : ∀ label ∈ Text.pieces '.' cs, Domain.Label.ofChars? label = some ⟨label, label⟩ := by
    intro label hlabel
    exact ofChars?_of_plain (hascii label hlabel) (hlabels label hlabel)
  have htext : Utf8.decode? (decode cs).toByteArray = some (String.ofList cs) := by
    rw [decode_of_not_mem hpercent]
    exact Utf8.decode?_toUTF8 (String.ofList cs)
  have hallowed : (cs.all fun c => !isForbiddenInDomain c) = true := by
    simpa [Avoids] using hforbidden
  unfold asciiDomain?
  simp only [Option.bind_eq_bind]
  rw [htext]
  rw [Option.bind_some]
  rw [String.toList_ofList]
  rw [normal?_of_plain hchars]
  rw [Option.bind_some]
  rw [hallowed]
  rw [Text.mapM_eq_some_map hread]
  simp only [guard, if_true, Option.pure_def, Option.bind_some, List.map_map]
  have hsame : ((·.shown) ∘ fun label => (⟨label, label⟩ : Domain.Label)) = id := rfl
  have hsame' : ((·.written) ∘ fun label => (⟨label, label⟩ : Domain.Label)) = id := rfl
  rw [hsame, hsame', List.map_id]
  rw [keepDirections_of_ascii hascii]
  rw [Text.joinPieces_pieces]
  rfl

theorem not_isForbiddenInDomain_digitChar : ∀ d < 36, isForbiddenInDomain (Punycode.digitChar d) = false := by
  decide

theorem not_isForbiddenInDomain_of_mem {fuel k bias n : Nat}
    (h : c ∈ Punycode.encodeNumber fuel k bias n) : isForbiddenInDomain c = false := by
  have hthreshold : Punycode.threshold k bias ≤ 26 := by
    unfold Punycode.threshold
    omega
  induction fuel generalizing k n with
  | zero => cases h
  | succ fuel ih =>
    unfold Punycode.encodeNumber at h
    dsimp only at h
    split at h
    . rw [List.mem_singleton.1 h]
      exact not_isForbiddenInDomain_digitChar n (by omega)
    . rcases List.mem_cons.1 h with h | h
      . rw [h]
        have hlt : (n - Punycode.threshold k bias) % (36 - Punycode.threshold k bias) <
            36 - Punycode.threshold k bias := Nat.mod_lt _ (by omega)
        exact not_isForbiddenInDomain_digitChar _ (by omega)
      . refine ih h ?_
        unfold Punycode.threshold
        omega

theorem avoids_go {basic n : Nat} {others : List Nat} {p : Punycode.Progress}
    (hp : Avoids isForbiddenInDomain p.text) :
    Avoids isForbiddenInDomain (Punycode.encode.go label basic others n p).text := by
  induction others generalizing n p with
  | nil => exact hp
  | cons m others ih =>
    unfold Punycode.encode.go
    apply ih
    apply List.foldlRecOn (motive := fun p : Punycode.Progress => Avoids isForbiddenInDomain p.text)
    . exact hp
    . intro p hp c _
      unfold Punycode.Progress.pass
      split
      . exact hp
      . split
        . intro x hx
          rcases List.mem_append.1 hx with hx | hx
          . exact hp x hx
          . exact not_isForbiddenInDomain_of_mem hx
        . exact hp

theorem avoids_punycode (h : Avoids isForbiddenInDomain label) :
    Avoids isForbiddenInDomain (Punycode.encode label) := by
  unfold Punycode.encode
  apply avoids_go
  intro c hc
  dsimp only at hc
  split at hc
  . cases hc
  . rcases List.mem_append.1 hc with hc | hc
    . exact h c (List.mem_filter.1 hc).1
    . rw [List.mem_singleton.1 hc]
      rfl

theorem avoids_written {found : Domain.Label} (h : Avoids isForbiddenInDomain label)
    (hfound : Domain.Label.ofChars? label = some found) : Avoids isForbiddenInDomain found.written := by
  unfold Domain.Label.ofChars? at hfound
  split at hfound
  . simp only [Option.bind_eq_bind, Option.bind_eq_some_iff] at hfound
    obtain ⟨_, _, _, _, hlabel⟩ := hfound
    cases hlabel
    exact h
  . split at hfound
    . cases hfound
      exact h
    . split at hfound
      . cases hfound
        intro c hc
        rcases List.mem_append.1 hc with hc | hc
        . have hfront : (Domain.encodedFront.all fun c => !isForbiddenInDomain c) = true := rfl
          simpa using List.all_eq_true.1 hfront c hc
        . exact avoids_punycode h c hc
      . cases hfound

/--
The ASCII form of a domain name has no forbidden characters.
-/
theorem avoids_of_asciiDomain? (h : asciiDomain? cs = some domain) :
    Avoids isForbiddenInDomain domain := by
  unfold asciiDomain? at h
  simp only [Option.bind_eq_bind, Option.bind_eq_some_iff, Option.guard_eq_some'] at h
  obtain ⟨_, _, name, _, _, hname, labels, hlabels, _, _, hdomain⟩ := h
  cases hdomain
  have hallowed : Avoids isForbiddenInDomain name := by simpa [Avoids] using hname
  intro c hc
  rcases Text.mem_joinPieces hc with hsep | ⟨written, hwritten, hmem⟩
  . rw [hsep]
    rfl
  . have ⟨found, hfound, heq⟩ := List.mem_map.1 hwritten
    have ⟨piece, hpiece, hread⟩ := Text.exists_of_mem_mapM hlabels hfound
    rw [← heq] at hmem
    refine avoids_written ?_ hread c hmem
    intro x hx
    exact hallowed x (Text.mem_of_mem_pieces hpiece hx)

theorem avoids_breaksHost (h : Avoids isForbiddenInDomain cs) : Avoids breaksHost cs := by
  intro c hc
  exact not_breaksHost (P := fun c => isForbiddenInDomain c = false) (by decide) (h c hc)

end Domains

section Special

theorem mem_ipv4Text {address : Nat} (h : c ∈ ipv4Text address) : c = '.' ∨ c.isDigit := by
  rcases Text.mem_joinPieces h with h | ⟨digits, hdigits, hmem⟩
  . exact .inl h
  . have ⟨i, _, hi⟩ := List.mem_map.1 hdigits
    rw [← hi] at hmem
    exact .inr (Nat.isDigit_of_mem_toDigits (by decide) (by decide) hmem)

theorem plain_of_mem_ipv4Text {address : Nat} (h : c ∈ ipv4Text address) :
    c.toNat < 0x80 ∧ c.toLower = c ∧ isForbiddenInDomain c = false := by
  have hascii : ∀ n < 0x80, Char.ofNat n = '.' ∨ (Char.ofNat n).isDigit →
      (Char.ofNat n).toLower = Char.ofNat n ∧ isForbiddenInDomain (Char.ofNat n) = false := by
    decide
  have hlt : c.toNat < 0x80 := by
    rcases mem_ipv4Text h with hdot | hdigit
    . rw [hdot]
      decide
    . exact Text.toNat_lt_of_isDigit hdigit
  refine ⟨hlt, ?_⟩
  exact Text.forall_ascii
    (P := fun c => c = '.' ∨ c.isDigit → c.toLower = c ∧ isForbiddenInDomain c = false) hascii hlt
    (mem_ipv4Text h)

theorem isPlainDomain_ipv4Text (address : Nat) : isPlainDomain (ipv4Text address) := by
  rw [isPlainDomain_iff]
  constructor
  . intro c hc
    have ⟨hlt, hlower, _⟩ := plain_of_mem_ipv4Text hc
    exact ⟨hlt, hlower⟩
  . intro label hlabel
    rw [Text.afterFront?_eq_none_iff]
    intro rest heq
    have hx : 'x' ∈ label := by
      rw [heq]
      exact List.mem_cons_self
    exact absurd (mem_ipv4Text (Text.mem_of_mem_pieces hlabel hx)) (by decide)

theorem avoids_ipv4Text (address : Nat) : Avoids isForbiddenInDomain (ipv4Text address) := by
  intro c hc
  exact (plain_of_mem_ipv4Text hc).2.2

/--
What the host of a URL with a special scheme is read as: an address with eight groups or four numbers,
or a domain name.
-/
inductive IsSpecialHost : String → Prop where
  | groups {cs : List Char} {host : String} (h : specialHost.ipv6 cs = .ok host) :
    IsSpecialHost host
  | numbers (address : Nat) : IsSpecialHost (String.ofList (ipv4Text address))
  | domain {cs domain : List Char} (h : asciiDomain? cs = some domain) (hne : domain ≠ [])
    (hnumber : endsInNumber domain = false) : IsSpecialHost (String.ofList domain)

theorem isSpecialHost_of_specialHost (h : specialHost cs = .ok host) : IsSpecialHost host := by
  unfold specialHost at h
  split at h
  . exact .groups h
  . split at h
    . next domain hdomain =>
      split at h
      . cases h
      . next hne =>
        split at h
        . split at h
          . next address _ =>
            cases h
            exact .numbers address
          . cases h
        . next hnumber =>
          cases h
          exact .domain hdomain (by simpa using hne) (Bool.eq_false_iff.2 hnumber)
    . cases h

theorem hasHostForm_of_isSpecialHost (h : IsSpecialHost host) : HasHostForm host.toList := by
  cases h with
  | groups h => exact hasHostForm_of_ipv6 h
  | numbers address =>
    rw [String.toList_ofList]
    exact .inl (avoids_breaksHost (avoids_ipv4Text address))
  | domain h =>
    rw [String.toList_ofList]
    exact .inl (avoids_breaksHost (avoids_of_asciiDomain? h))

theorem head?_ne_of_avoids (h : Avoids isForbiddenInDomain cs) : cs.head? ≠ some '[' := by
  intro hhead
  exact absurd (h '[' (List.mem_of_head? hhead)) (by decide)

theorem specialHost_of_isSpecialHost (h : IsSpecialHost host)
    (hdomain : ¬isPlainDomain host.toList → asciiDomain? host.toList = some host.toList) :
    specialHost host.toList = .ok host := by
  cases h with
  | groups h =>
    have ⟨hhead, hsame⟩ := ipv6_tail_of_ipv6 h
    unfold specialHost
    rw [if_pos hhead]
    exact hsame
  | numbers address =>
    have hforbidden := avoids_ipv4Text address
    rw [String.toList_ofList]
    unfold specialHost
    rw [if_neg (head?_ne_of_avoids hforbidden)]
    rw [asciiDomain?_of_isPlainDomain (isPlainDomain_ipv4Text address) hforbidden]
    dsimp only
    rw [if_neg (by simpa using ipv4Text_ne_nil address)]
    rw [endsInNumber_ipv4Text]
    rw [ipv4?_ipv4Text]
    dsimp only
    rw [ipv4Text_mod]
    rfl
  | @domain cs domain h hne hnumber =>
    have hforbidden := avoids_of_asciiDomain? h
    rw [String.toList_ofList] at hdomain ⊢
    have hsame : asciiDomain? domain = some domain := by
      by_cases hplain : isPlainDomain domain
      . exact asciiDomain?_of_isPlainDomain hplain hforbidden
      . exact hdomain hplain
    unfold specialHost
    rw [if_neg (head?_ne_of_avoids hforbidden)]
    rw [hsame]
    dsimp only
    rw [hnumber]
    rw [if_neg (by simpa using hne)]
    rfl

end Special

section Other

/--
The characters that the host of a URL with another scheme must not have.
-/
def isForbiddenInHost (c : Char) : Bool :=
  ['\x00', ' ', '#', '/', ':', '<', '>', '?', '@', '[', '\\', ']', '^', '|'].contains c

theorem otherHost_of_avoids (h : Avoids isForbiddenInHost cs) :
    otherHost cs = .ok (String.ofList (encode isControl cs)) := by
  have hhead : cs.head? ≠ some '[' := by
    intro hhead
    exact absurd (h '[' (List.mem_of_head? hhead)) (by decide)
  have hany : cs.any isForbiddenInHost = false := by simpa [Avoids] using h
  unfold otherHost
  rw [if_neg hhead]
  exact if_neg (Bool.eq_false_iff.1 hany)

theorem not_isForbiddenInHost_of_isEscape (h : isEscape c) : isForbiddenInHost c = false :=
  Text.forall_ascii (P := fun c => isEscape c → isForbiddenInHost c = false) (by decide)
    (toNat_lt_of_isEscape h) h

theorem eq_of_otherHost (h : otherHost cs = .ok host) (hhead : cs.head? ≠ some '[') :
    host = String.ofList (encode isControl cs) ∧ Avoids isForbiddenInHost (encode isControl cs) := by
  unfold otherHost at h
  rw [if_neg hhead] at h
  split at h
  . cases h
  . next hany =>
    cases h
    refine ⟨rfl, ?_⟩
    intro c hc
    rcases mem_encode hc with hescape | ⟨hmem, _⟩
    . exact not_isForbiddenInHost_of_isEscape hescape
    . rw [List.any_eq_true] at hany
      rw [Bool.eq_false_iff]
      intro hforbidden
      exact hany ⟨c, hmem, hforbidden⟩

theorem hasHostForm_of_otherHost (h : otherHost cs = .ok host) : HasHostForm host.toList := by
  by_cases hhead : cs.head? = some '['
  . unfold otherHost at h
    rw [if_pos hhead] at h
    exact hasHostForm_of_ipv6 h
  . have ⟨hhost, havoids⟩ := eq_of_otherHost h hhead
    rw [hhost]
    rw [String.toList_ofList]
    refine .inl ?_
    intro c hc
    exact not_breaksHost (P := fun c => isForbiddenInHost c = false ∧ isControl c = false)
      (by decide) ⟨havoids c hc, avoids_encode sparesEscapes_isControl cs c hc⟩

theorem otherHost_of_otherHost (h : otherHost cs = .ok host) : otherHost host.toList = .ok host := by
  by_cases hhead : cs.head? = some '['
  . unfold otherHost at h
    rw [if_pos hhead] at h
    have ⟨hhead', hsame⟩ := ipv6_tail_of_ipv6 h
    unfold otherHost
    rw [if_pos hhead']
    exact hsame
  . have ⟨hhost, havoids⟩ := eq_of_otherHost h hhead
    rw [hhost]
    rw [String.toList_ofList]
    rw [otherHost_of_avoids havoids]
    rw [encode_of_avoids (avoids_encode sparesEscapes_isControl cs)]

end Other

theorem hasHostForm_of_readHost (h : readHost special cs = .ok host) : HasHostForm host.toList := by
  cases special with
  | true => exact hasHostForm_of_isSpecialHost (isSpecialHost_of_specialHost h)
  | false => exact hasHostForm_of_otherHost h

/--
A host that has been read reads back as itself.
-/
theorem readHost_of_readHost (h : readHost special cs = .ok host)
    (hdomain : special → ¬isPlainDomain host.toList → asciiDomain? host.toList = some host.toList) :
    readHost special host.toList = .ok host := by
  cases special with
  | true => exact specialHost_of_isSpecialHost (isSpecialHost_of_specialHost h) (hdomain rfl)
  | false => exact otherHost_of_otherHost h

theorem ne_empty_of_specialHost (h : specialHost cs = .ok host) : host ≠ "" := by
  cases isSpecialHost_of_specialHost h with
  | groups h =>
    intro hempty
    have hhead := (ipv6_tail_of_ipv6 h).1
    rw [hempty] at hhead
    cases hhead
  | numbers address => simpa using ipv4Text_ne_nil address
  | domain h hne => simpa using hne

end ServerLauncher.Url
