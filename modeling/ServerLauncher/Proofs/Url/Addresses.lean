import Mathlib.Data.Option.Basic
import ServerLauncher.Proofs.Text.Pieces
import ServerLauncher.Proofs.Url.Percent
import ServerLauncher.Url.Address

/-!
This module contains the reading of numeric addresses as the inverse of their writing.
-/

namespace ServerLauncher.Url

section FourNumbers

theorem ofChars_toDigits :
    ∀ n < 256, NumberPart.ofChars (Nat.toDigits 10 n) = .number n := by
  decide +kernel

theorem ofChars_ne_none : ∀ n < 256, NumberPart.ofChars (Nat.toDigits 10 n) ≠ .none := by
  intro n hn
  rw [ofChars_toDigits n hn]
  simp

/--
The numbers of an address with four of them.
-/
def numbersOf (address : Nat) : List Nat :=
  [3, 2, 1, 0].map fun i => (address >>> (8 * i)) % 256

theorem pieces_ipv4Text (address : Nat) :
    Text.pieces '.' (ipv4Text address) = (numbersOf address).map (Nat.toDigits 10) := by
  unfold ipv4Text
  rw [Text.pieces_joinPieces]
  . simp [numbersOf]
  . simp
  . intro digits hdigits hdot
    have ⟨i, _, hi⟩ := List.mem_map.1 hdigits
    rw [← hi] at hdot
    exact absurd (Nat.isDigit_of_mem_toDigits (by decide) (by decide) hdot) (by decide)

theorem ipv4Text_ne_nil (address : Nat) : ipv4Text address ≠ [] := by
  intro hnil
  have hlength := congrArg List.length (pieces_ipv4Text address)
  rw [hnil] at hlength
  simp [Text.pieces, numbersOf] at hlength

theorem ipv4?_ipv4Text (address : Nat) :
    ipv4? (ipv4Text address) = some (address % UInt32.size) := by
  have hlast : ∀ n, some (Nat.toDigits 10 n) ≠ some [] := by
    intro n h
    exact Nat.toDigits_ne_nil (Option.some.inj h)
  have hparts : ∀ n, NumberPart.ofChars (Nat.toDigits 10 (n % 256)) = .number (n % 256) :=
    fun n => ofChars_toDigits _ (Nat.mod_lt n (by decide))
  unfold ipv4?
  rw [pieces_ipv4Text]
  have hsum : (256 * (256 * ((address >>> 24) % 256) + (address >>> 16) % 256) +
      (address >>> 8) % 256) <<< 8 + address % 256 = address % UInt32.size := by
    simp only [Nat.shiftRight_eq_div_pow, Nat.shiftLeft_eq, UInt32.size]
    omega
  have hlt : ∀ n, n % 256 < 256 := fun n => Nat.mod_lt n (by decide)
  simp [numbersOf, hlast, hparts, guard, hsum, hlt, Nat.le_of_lt_succ (hlt _)]

theorem endsInNumber_ipv4Text (address : Nat) : endsInNumber (ipv4Text address) := by
  unfold endsInNumber
  rw [pieces_ipv4Text]
  have hpart := ofChars_ne_none (address % 256) (Nat.mod_lt _ (by decide))
  have hne : Nat.toDigits 10 (address % 256) ≠ [] := Nat.toDigits_ne_nil
  simp [numbersOf, hpart, hne]

theorem ipv4Text_mod (address : Nat) : ipv4Text (address % UInt32.size) = ipv4Text address := by
  have hbyte : ∀ i ∈ [3, 2, 1, 0], ((address % UInt32.size) >>> (8 * i)) % 256 =
      (address >>> (8 * i)) % 256 := by
    simp only [List.mem_cons, List.not_mem_nil, or_false, Nat.shiftRight_eq_div_pow, UInt32.size]
    intro i hi
    rcases hi with hi | hi | hi | hi
    all_goals
      rw [hi]
      omega
  unfold ipv4Text
  congr 1
  apply List.map_congr_left
  intro i hi
  rw [hbyte i hi]

end FourNumbers

section EightGroups

variable {cs part tail : List Char} {parts : List (List Char)} {groups : List Nat} {n : Nat}

/--
The groups of an address have 16 bits.
-/
def AreGroups (groups : List Nat) : Prop :=
  ∀ n ∈ groups, n < 65536

theorem hexValue?_digitChar : ∀ n < 16, Json.hexValue? (Nat.digitChar n) = some n := by
  decide

theorem hexNumber?_toDigits (n : Nat) : Json.hexNumber? (Nat.toDigits 16 n) = some n := by
  induction n using Nat.strongRecOn with
  | ind n ih =>
    unfold Json.hexNumber? at ih ⊢
    by_cases hlt : n < 16
    . rw [Nat.toDigits_of_lt_base hlt]
      simp [hexValue?_digitChar n hlt]
    . rw [Nat.toDigits_of_base_le (by decide) (Nat.le_of_not_lt hlt)]
      rw [List.foldlM_append]
      rw [ih (n / 16) (by omega)]
      simp [hexValue?_digitChar (n % 16) (Nat.mod_lt n (by decide))]
      omega

theorem group?_toDigits (h : n < 65536) : groups?.group? (Nat.toDigits 16 n) = some n := by
  have hlength : (Nat.toDigits 16 n).length ≤ 4 :=
    (Nat.length_toDigits_le_iff (by decide) (by decide)).2 h
  have hne : Nat.toDigits 16 n ≠ [] := Nat.toDigits_ne_nil
  unfold groups?.group?
  simp [hexNumber?_toDigits, hlength, hne, guard]

theorem isDigit_of_mem_toDigits_hex {c : Char} (h : c ∈ Nat.toDigits 16 n) :
    ∃ d < 16, c = Nat.digitChar d := by
  induction n using Nat.strongRecOn with
  | ind n ih =>
    by_cases hlt : n < 16
    . rw [Nat.toDigits_of_lt_base hlt] at h
      exact ⟨n, hlt, List.mem_singleton.1 h⟩
    . rw [Nat.toDigits_of_base_le (by decide) (Nat.le_of_not_lt hlt)] at h
      rcases List.mem_append.1 h with h | h
      . exact ih (n / 16) (by omega) h
      . exact ⟨n % 16, Nat.mod_lt n (by decide), List.mem_singleton.1 h⟩

theorem not_mem_toDigits_hex {c : Char} (h : ∀ d < 16, c ≠ Nat.digitChar d) (n : Nat) :
    c ∉ Nat.toDigits 16 n := by
  intro hmem
  have ⟨d, hd, heq⟩ := isDigit_of_mem_toDigits_hex hmem
  exact h d hd heq

theorem groups?_go_toDigits (h : AreGroups groups) :
    groups?.go (groups.map (Nat.toDigits 16)) = some groups := by
  induction groups with
  | nil => rfl
  | cons n others ih =>
    have ⟨hn, hothers⟩ := List.forall_mem_cons.1 h
    cases others with
    | nil =>
      have hdot : (Nat.toDigits 16 n).contains '.' = false := by
        simpa using not_mem_toDigits_hex (by decide) n
      simp only [List.map_cons, List.map_nil]
      unfold groups?.go
      rw [hdot]
      rw [group?_toDigits hn]
      rfl
    | cons m rest =>
      have ih := ih hothers
      simp only [List.map_cons] at ih ⊢
      unfold groups?.go
      rw [group?_toDigits hn, ih]
      rfl

/--
Groups as they are written, with colons between them.
-/
def groupChars (groups : List Nat) : List Char :=
  Text.joinPieces ':' (groups.map (Nat.toDigits 16))

theorem colon_not_mem_toDigits (n : Nat) : ':' ∉ Nat.toDigits 16 n :=
  not_mem_toDigits_hex (by decide) n

theorem groups?_groupChars (h : AreGroups groups) : groups? (groupChars groups) = some groups := by
  cases groups with
  | nil => rfl
  | cons n others =>
    have hne : Nat.toDigits 16 n ≠ [] := Nat.toDigits_ne_nil
    have ⟨behind, hbehind, _⟩ :=
      Text.exists_joinPieces_eq ':' (Nat.toDigits 16 n) (others.map (Nat.toDigits 16))
    have hchars : groupChars (n :: others) ≠ [] := by
      unfold groupChars
      rw [List.map_cons, hbehind]
      exact List.append_ne_nil_of_left_ne_nil hne behind
    unfold groups?
    rw [if_neg (by simpa using hchars)]
    unfold groupChars
    rw [Text.pieces_joinPieces]
    . exact groups?_go_toDigits h
    . simp
    . intro digits hdigits
      have ⟨m, _, hm⟩ := List.mem_map.1 hdigits
      rw [← hm]
      exact colon_not_mem_toDigits m

theorem splitAtDouble_cons {c : Char} (h : c ≠ ':') (cs : List Char) :
    splitAtDouble (c :: cs) = (c :: (splitAtDouble cs).1, (splitAtDouble cs).2) := by
  rw [splitAtDouble]
  intro rest hc _
  exact absurd hc h

theorem splitAtDouble_colon {c : Char} (h : c ≠ ':') (cs : List Char) :
    splitAtDouble (':' :: c :: cs) =
      (':' :: (splitAtDouble (c :: cs)).1, (splitAtDouble (c :: cs)).2) := by
  rw [splitAtDouble]
  intro rest _ hcs
  cases hcs
  exact h rfl

theorem splitAtDouble_append (h : ':' ∉ part) (tail : List Char) :
    splitAtDouble (part ++ tail) = (part ++ (splitAtDouble tail).1, (splitAtDouble tail).2) := by
  induction part with
  | nil => rfl
  | cons c rest ih =>
    simp only [List.mem_cons, not_or] at h
    rw [List.cons_append]
    rw [splitAtDouble_cons (Ne.symm h.1)]
    rw [ih h.2]
    rfl

/--
There is no double colon between groups.
-/
theorem splitAtDouble_groupChars (groups : List Nat) (tail : List Char) :
    splitAtDouble (groupChars groups ++ tail) =
      (groupChars groups ++ (splitAtDouble tail).1, (splitAtDouble tail).2) := by
  induction groups with
  | nil => rfl
  | cons n others ih =>
    cases others with
    | nil => exact splitAtDouble_append (colon_not_mem_toDigits n) tail
    | cons m rest =>
      have ⟨d, digits, hdigits⟩ : ∃ d digits, Nat.toDigits 16 m = d :: digits :=
        List.exists_cons_of_ne_nil Nat.toDigits_ne_nil
      have hd : d ≠ ':' := by
        intro hd
        apply colon_not_mem_toDigits m
        rw [hdigits, hd]
        exact List.mem_cons_self
      have hcons : groupChars (n :: m :: rest) =
          Nat.toDigits 16 n ++ ':' :: groupChars (m :: rest) := rfl
      have ⟨behind, hbehind, _⟩ :=
        Text.exists_joinPieces_eq ':' (Nat.toDigits 16 m) (rest.map (Nat.toDigits 16))
      have hothers : groupChars (m :: rest) = d :: (digits ++ behind) := by
        unfold groupChars
        rw [List.map_cons, hbehind, hdigits]
        rfl
      rw [hcons]
      rw [List.append_assoc]
      rw [splitAtDouble_append (colon_not_mem_toDigits n)]
      rw [List.cons_append]
      rw [hothers] at ih ⊢
      rw [List.cons_append] at ih ⊢
      rw [splitAtDouble_colon hd]
      rw [ih]
      simp

/--
Some groups from a place on are zeros.
-/
def HasZeros (groups : List Nat) (start length : Nat) : Prop :=
  start + length ≤ groups.length ∧ (groups.drop start).take length = List.replicate length 0

theorem hasZeros_longestZeros (groups : List Nat) :
    HasZeros groups (longestZeros groups).1 (longestZeros groups).2 := by
  unfold longestZeros
  apply List.foldlRecOn
    (motive := fun best : Nat × Nat => HasZeros groups best.1 best.2)
  . exact ⟨Nat.zero_le _, rfl⟩
  . intro best hbest run hrun
    split
    . have ⟨i, hi, heq⟩ := List.mem_map.1 hrun
      rw [← heq]
      have hlength := ((groups.drop i).takeWhile_sublist (· = 0)).length_le
      rw [List.length_drop] at hlength
      refine ⟨?_, ?_⟩
      . have hlt := List.mem_range.1 hi
        omega
      . rw [← List.prefix_iff_eq_take.1 (List.takeWhile_prefix _)]
        rw [List.eq_replicate_iff]
        refine ⟨rfl, ?_⟩
        intro n hn
        have hall := List.all_takeWhile (p := (fun n : Nat => decide (n = 0))) (l := groups.drop i)
        exact of_decide_eq_true (List.all_eq_true.1 hall n hn)
    . exact hbest

theorem HasZeros.eq_append {start length : Nat} (h : HasZeros groups start length) :
    groups = groups.take start ++ List.replicate length 0 ++ groups.drop (start + length) := by
  rw [← h.2]
  rw [List.append_assoc]
  rw [← List.drop_drop]
  rw [List.take_append_drop, List.take_append_drop]

theorem dot_not_mem_groupChars (groups : List Nat) : '.' ∉ groupChars groups := by
  intro h
  rcases Text.mem_joinPieces h with h | ⟨digits, hdigits, hmem⟩
  . exact absurd h (by decide)
  . have ⟨n, _, hn⟩ := List.mem_map.1 hdigits
    rw [← hn] at hmem
    exact not_mem_toDigits_hex (by decide) n hmem

theorem ipv6Text_eq (groups : List Nat) :
    ipv6Text groups =
      if (longestZeros groups).2 < 2 then groupChars groups
      else groupChars (groups.take (longestZeros groups).1) ++ ':' :: ':' ::
        groupChars (groups.drop ((longestZeros groups).1 + (longestZeros groups).2)) :=
  rfl

theorem ipv6?_ipv6Text (hlength : groups.length = 8) (h : AreGroups groups) :
    ipv6? (ipv6Text groups) = some groups := by
  have hzeros := hasZeros_longestZeros groups
  rw [ipv6Text_eq]
  generalize longestZeros groups = zeros at hzeros ⊢
  rcases zeros with ⟨start, length⟩
  dsimp only at hzeros ⊢
  split
  . -- All groups are written.
    have hsplit := splitAtDouble_groupChars groups []
    simp only [List.append_nil, splitAtDouble] at hsplit
    unfold ipv6?
    rw [hsplit]
    simp [groups?_groupChars h, hlength, guard]
  . have hbound := hzeros.1
    have hfront : AreGroups (groups.take start) := fun n hn => h n (List.mem_of_mem_take hn)
    have hback : AreGroups (groups.drop (start + length)) := fun n hn => h n (List.mem_of_mem_drop hn)
    have hsplit := splitAtDouble_groupChars (groups.take start)
      (':' :: ':' :: groupChars (groups.drop (start + length)))
    simp only [splitAtDouble, List.append_nil] at hsplit
    have hbefore : (groups.take start).length = start := by
      rw [List.length_take]
      omega
    have hafter : (groups.drop (start + length)).length = 8 - (start + length) := by
      rw [List.length_drop, hlength]
    have hfew : start + (8 - (start + length)) ≤ 7 := by omega
    have hplaces : 8 - start - (8 - (start + length)) = length := by omega
    unfold ipv6?
    rw [hsplit]
    have hdot : (groupChars (groups.take start)).contains '.' = false := by
      simpa using dot_not_mem_groupChars _
    dsimp only
    rw [hdot]
    rw [groups?_groupChars hfront, groups?_groupChars hback]
    simp only [guard, Option.bind_eq_bind, Option.bind_some]
    rw [hbefore, hafter, hplaces]
    rw [if_pos (show (!false) = true from rfl), if_pos hfew]
    exact congrArg some hzeros.eq_append.symm

theorem foldlM_hexValue?_lt {m : Nat}
    (h : cs.foldlM (fun n c => (Json.hexValue? c).map (16 * n + ·)) m = some n) :
    n < (m + 1) <<< (4 * cs.length) := by
  induction cs generalizing m with
  | nil =>
    cases h
    simp
  | cons c rest ih =>
    rw [List.foldlM_cons] at h
    obtain ⟨k, hk, hrest⟩ := Option.bind_eq_some_iff.1 h
    obtain ⟨d, hd, hsum⟩ := Option.map_eq_some_iff.1 hk
    have hlt := (lt_and_toLower_of_hexValue? hd).1
    calc
      n < (k + 1) <<< (4 * rest.length) := ih hrest
      _ ≤ ((m + 1) <<< 4) <<< (4 * rest.length) := by
        simp only [Nat.shiftLeft_eq]
        exact Nat.mul_le_mul_right _ (by omega)
      _ = (m + 1) <<< (4 * (rest.length + 1)) := by
        rw [← Nat.shiftLeft_add]
        congr 1
        omega

theorem group?_lt (h : groups?.group? part = some n) : n < 65536 := by
  unfold groups?.group? at h
  simp only [Option.bind_eq_bind, Option.bind_eq_some_iff, Option.guard_eq_some', Bool.and_eq_true,
    decide_eq_true_eq] at h
  obtain ⟨_, hlength, hnumber⟩ := h
  calc
    n < (0 + 1) <<< (4 * part.length) := foldlM_hexValue?_lt hnumber
    _ ≤ (0 + 1) <<< (4 * 4) := by
      simp only [Nat.shiftLeft_eq]
      exact Nat.mul_le_mul_left _ (Nat.pow_le_pow_right (by decide) (by omega))

theorem areGroups_embedded? (h : embedded? cs = some groups) : AreGroups groups := by
  unfold embedded? at h
  simp only [Option.bind_eq_bind, Option.bind_eq_some_iff] at h
  obtain ⟨_, _, numbers, hnumbers, hgroups⟩ := h
  have hbyte : ∀ n ∈ numbers, n < 256 := by
    intro n hn
    obtain ⟨part, _, hpart⟩ := Text.exists_of_mem_mapM hnumbers hn
    simp only [Option.bind_eq_some_iff] at hpart
    obtain ⟨_, _, _, _, hnumber⟩ := hpart
    exact (Text.numberBelow?_eq_some_iff.1 hnumber).2
  split at hgroups
  . next a b c d =>
    cases hgroups
    simp only [List.forall_mem_cons] at hbyte
    simp only [AreGroups, List.forall_mem_cons]
    obtain ⟨ha, hb, hc, hd, _⟩ := hbyte
    refine ⟨by omega, by omega, ?_⟩
    intro n hn
    cases hn
  . cases hgroups

theorem areGroups_go (h : groups?.go parts = some groups) : AreGroups groups := by
  fun_induction groups?.go parts generalizing groups with
  | case1 =>
    cases h
    intro n hn
    cases hn
  | case2 last hdot => exact areGroups_embedded? h
  | case3 last hdot =>
    obtain ⟨n, hn, hgroups⟩ := Option.map_eq_some_iff.1 h
    rw [← hgroups]
    exact List.forall_mem_singleton.2 (group?_lt hn)
  | case4 part rest hrest ih =>
    simp only [Option.bind_eq_bind, Option.bind_eq_some_iff] at h
    obtain ⟨n, hn, others, hothers, hgroups⟩ := h
    cases hgroups
    exact List.forall_mem_cons.2 ⟨group?_lt hn, ih hothers⟩

theorem areGroups_groups? (h : groups? cs = some groups) : AreGroups groups := by
  unfold groups? at h
  split at h
  . cases h
    simp [AreGroups]
  . exact areGroups_go h

theorem areGroups_ipv6? (h : ipv6? cs = some groups) : groups.length = 8 ∧ AreGroups groups := by
  unfold ipv6? at h
  split at h
  . simp only [Option.bind_eq_bind, Option.bind_eq_some_iff, Option.guard_eq_some'] at h
    obtain ⟨found, hfound, _, hlength, hgroups⟩ := h
    cases hgroups
    exact ⟨hlength, areGroups_groups? hfound⟩
  . simp only [Option.bind_eq_bind, Option.bind_eq_some_iff, Option.guard_eq_some'] at h
    obtain ⟨_, _, before, hbefore, after, hafter, _, hlength, hgroups⟩ := h
    cases hgroups
    refine ⟨?_, ?_⟩
    . simp only [List.length_append, List.length_replicate]
      omega
    . intro n hn
      simp only [List.mem_append, List.mem_replicate] at hn
      rcases hn with (hn | ⟨_, hn⟩) | hn
      . exact areGroups_groups? hbefore n hn
      . rw [hn]
        decide
      . exact areGroups_groups? hafter n hn

/--
An address with eight groups is read back from its text.
-/
theorem ipv6?_ipv6Text_of_ipv6? (h : ipv6? cs = some groups) :
    ipv6? (ipv6Text groups) = some groups := by
  have ⟨hlength, hgroups⟩ := areGroups_ipv6? h
  exact ipv6?_ipv6Text hlength hgroups

end EightGroups

end ServerLauncher.Url
