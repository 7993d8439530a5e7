import Mathlib
import Sinkhole.Lifecycle.Interface

/-! # The newest tunnel interface

A tunnel's name is `tun` with a 32-bit number behind it, read from any decimal spelling: leading
zeros and one plus sign do not matter. So several names may have the greatest number of a listing,
and then the last of them is the newest. Main statements: what is found is the newest one, and
nothing is found only where no name is a tunnel's.
-/
namespace Sinkhole

/-- The text spells a 32-bit number. -/
def IsNumber32 (text : List Char) (number : Nat) : Prop :=
  ∃ digits, (text = digits ∨ text = '+' :: digits) ∧ digits ≠ [] ∧
    (∀ c ∈ digits, c.isDigit = true) ∧ Nat.ofDigitChars 10 digits 0 = number ∧ number < 2 ^ 32

theorem digitValue?_ten (c : Char) :
    digitValue? 10 c = if c.isDigit then some (c.toNat - 48) else none := by
  have hdigit : c.isDigit = true ↔ '0' ≤ c ∧ c ≤ '9' := by
    rw [Char.isDigit, Bool.and_eq_true, decide_eq_true_iff, decide_eq_true_iff]
    rfl
  simp only [digitValue?, hdigit]
  split
  · rename_i hrange
    have hle : c.toNat ≤ 57 := hrange.2
    rw [Option.filter_some, if_pos (decide_eq_true (by omega))]
  · split
    · rename_i hrange
      have hle : 97 ≤ c.toNat := hrange.1
      rw [Option.filter_some, if_neg (by rw [decide_eq_true_iff]; omega)]
    · split
      · rename_i hrange
        have hle : 65 ≤ c.toNat := hrange.1
        rw [Option.filter_some, if_neg (by rw [decide_eq_true_iff]; omega)]
      · rfl

theorem spanDigits_ten (text : List Char) :
    spanDigits 10 text =
      ((text.takeWhile Char.isDigit).map (·.toNat - 48), text.dropWhile Char.isDigit) := by
  induction text with
  | nil => rfl
  | cons c rest ih =>
    rw [spanDigits, digitValue?_ten, ih]
    cases hdigit : c.isDigit <;> simp [hdigit]

theorem digitsValue_ten (digits : List Char) :
    digitsValue 10 (digits.map (·.toNat - 48)) = Nat.ofDigitChars 10 digits 0 := by
  rw [digitsValue, List.foldl_map, Nat.ofDigitChars]
  congr 1
  funext value c
  rw [Nat.mul_comm]
  rfl

theorem readNumber_whole_iff {digits : List Char} {number : Nat} :
    IpAddress.readNumber 10 (2 ^ 32) none true digits = some (number, []) ↔
      digits ≠ [] ∧ (∀ c ∈ digits, c.isDigit = true) ∧
        Nat.ofDigitChars 10 digits 0 = number ∧ number < 2 ^ 32 := by
  simp only [IpAddress.readNumber, spanDigits_ten, digitsValue_ten]
  constructor
  · intro h
    split at h
    · cases h
    · rename_i hvalid
      obtain ⟨rfl, hrest⟩ := Prod.mk.inj (Option.some.inj h)
      have hall := List.dropWhile_eq_nil_iff.1 hrest
      rw [List.takeWhile_eq_self_iff.2 hall] at hvalid ⊢
      simp only [List.isEmpty_map, Bool.or_false, Bool.not_true, Bool.false_and, Bool.or_eq_true,
        List.isEmpty_iff, decide_eq_true_eq, not_or] at hvalid
      exact ⟨hvalid.1, hall, rfl, by omega⟩
  · rintro ⟨hne, hall, rfl, hlt⟩
    rw [List.takeWhile_eq_self_iff.2 hall, List.dropWhile_eq_nil_iff.2 hall, if_neg]
    simp [hne]
    omega

/-- The text without a plus sign before it. -/
def unsigned (text : List Char) : List Char :=
  match text with
  | '+' :: rest => rest
  | _ => text

theorem unsigned_eq_or (text : List Char) : text = unsigned text ∨ text = '+' :: unsigned text := by
  unfold unsigned
  split
  · exact .inr rfl
  · exact .inl rfl

theorem unsigned_of_isDigit {digits : List Char} (h : ∀ c ∈ digits, c.isDigit = true) :
    unsigned digits = digits := by
  unfold unsigned
  split
  · exact absurd (h '+' List.mem_cons_self) (by decide)
  · rfl

theorem number32?_eq_some_iff {text : List Char} {number : Nat} :
    number32? text = some number ↔ IsNumber32 text number := by
  have hread : number32? text = some number ↔
      IpAddress.readNumber 10 (2 ^ 32) none true (unsigned text) = some (number, []) := by
    unfold number32?
    dsimp only
    split
    · rename_i value hread
      have hread : IpAddress.readNumber 10 (2 ^ 32) none true (unsigned text) =
        some (value, []) := hread
      rw [hread]
      simp
    · rename_i hread
      exact iff_of_false (by simp) (hread number)
  rw [hread, readNumber_whole_iff]
  constructor
  · exact fun h => ⟨unsigned text, unsigned_eq_or text, h⟩
  · rintro ⟨digits, rfl | rfl, hdigits⟩
    · rwa [unsigned_of_isDigit hdigits.2.1]
    · exact hdigits

/-- The name is a tunnel's, with its number. -/
def IsTunnelName (name : String) (number : Nat) : Prop :=
  ∃ text : String, name = "tun" ++ text ∧ IsNumber32 text.toList number

theorem tunnelNumber?_eq_some_iff {name : String} {number : Nat} :
    tunnelNumber? name = some number ↔ IsTunnelName name number := by
  rw [tunnelNumber?, IsTunnelName]
  split
  · rename_i rest hname
    rw [number32?_eq_some_iff]
    constructor
    · intro h
      refine ⟨String.ofList rest, String.toList_inj.1 ?_, by rwa [String.toList_ofList]⟩
      rw [hname, String.toList_append, String.toList_ofList, String.toList_ofList]
      rfl
    · rintro ⟨text, rfl, h⟩
      rw [String.toList_append] at hname
      have hname : ['t', 'u', 'n'] ++ text.toList = ['t', 'u', 'n'] ++ rest := hname
      rwa [← List.append_cancel_left hname]
  · rename_i hname
    refine iff_of_false nofun ?_
    rintro ⟨text, rfl, -⟩
    exact hname text.toList String.toList_append

def HasTunnel (interfaces : List Interface) : Prop :=
  ∃ interface ∈ interfaces, ∃ number, IsTunnelName interface.name number

/-- The name has the greatest tunnel number of the listing, and no name behind it has it too. -/
def IsNewest (interfaces : List Interface) (name : String) (number : Nat) : Prop :=
  ∃ earlier interface later, interfaces = earlier ++ interface :: later ∧
    interface.name = name ∧ IsTunnelName name number ∧
    (∀ other ∈ earlier, ∀ number', IsTunnelName other.name number' → number' ≤ number) ∧
    ∀ other ∈ later, ∀ number', IsTunnelName other.name number' → number' < number

variable {interfaces : List Interface} {interface : Interface} {name : String} {number : Nat}

theorem IsTunnelName.unique {number' : Nat} (h : IsTunnelName name number)
    (h' : IsTunnelName name number') : number = number' :=
  Option.some.inj ((tunnelNumber?_eq_some_iff.2 h).symm.trans (tunnelNumber?_eq_some_iff.2 h'))

theorem IsNewest.hasTunnel (h : IsNewest interfaces name number) : HasTunnel interfaces := by
  obtain ⟨earlier, interface, later, rfl, rfl, hname, -⟩ := h
  exact ⟨interface, List.mem_append_right _ List.mem_cons_self, number, hname⟩

theorem IsNewest.le (h : IsNewest interfaces name number) :
    ∀ other ∈ interfaces, ∀ number', IsTunnelName other.name number' → number' ≤ number := by
  obtain ⟨earlier, interface, later, rfl, rfl, hname, hearlier, hlater⟩ := h
  intro other hother number' hnumber'
  rcases List.mem_append.1 hother with hother | hother
  · exact hearlier other hother number' hnumber'
  · rcases List.mem_cons.1 hother with rfl | hother
    · exact (hnumber'.unique hname).le
    · exact (hlater other hother number' hnumber').le

theorem IsNewest.concat (h : IsNewest interfaces name number)
    (hless : ∀ number', IsTunnelName interface.name number' → number' < number) :
    IsNewest (interfaces ++ [interface]) name number := by
  obtain ⟨earlier, newest, later, rfl, hnewest, hname, hearlier, hlater⟩ := h
  refine ⟨earlier, newest, later ++ [interface], by simp, hnewest, hname, hearlier, ?_⟩
  intro other hother
  rcases List.mem_append.1 hother with hother | hother
  · exact hlater other hother
  · exact List.mem_singleton.1 hother ▸ hless

theorem isNewest_concat (hname : IsTunnelName interface.name number)
    (hle : ∀ other ∈ interfaces, ∀ number', IsTunnelName other.name number' → number' ≤ number) :
    IsNewest (interfaces ++ [interface]) interface.name number :=
  ⟨interfaces, interface, [], rfl, rfl, hname, hle, fun _ hother => absurd hother List.not_mem_nil⟩

theorem foldl_newerTunnel_cases (interfaces : List Interface) :
    interfaces.foldl newerTunnel none = none ∧ ¬ HasTunnel interfaces ∨
      ∃ number name, interfaces.foldl newerTunnel none = some (number, name) ∧
        IsNewest interfaces name number := by
  induction interfaces using List.reverseRecOn with
  | nil => exact .inl ⟨rfl, by rintro ⟨interface, hmem, -⟩; exact absurd hmem List.not_mem_nil⟩
  | append_singleton interfaces interface ih =>
    rw [List.foldl_concat, newerTunnel]
    cases hnumber : tunnelNumber? interface.name with
    | none =>
      have hother : ∀ number, ¬ IsTunnelName interface.name number := by
        intro number hname
        rw [tunnelNumber?_eq_some_iff.2 hname] at hnumber
        cases hnumber
      rcases ih with ⟨hnone, hwithout⟩ | ⟨number, name, hsome, hnewest⟩
      · refine .inl ⟨hnone, ?_⟩
        rintro ⟨tunnel, hmem, number, hname⟩
        rcases List.mem_append.1 hmem with hmem | hmem
        · exact hwithout ⟨tunnel, hmem, number, hname⟩
        · exact hother number (List.mem_singleton.1 hmem ▸ hname)
      · exact .inr ⟨number, name, hsome, hnewest.concat fun _ hname => absurd hname (hother _)⟩
    | some number =>
      have hname : IsTunnelName interface.name number := tunnelNumber?_eq_some_iff.1 hnumber
      rcases ih with ⟨hnone, hwithout⟩ | ⟨highest, name, hsome, hnewest⟩
      · rw [hnone]
        refine .inr ⟨number, interface.name, rfl, isNewest_concat hname ?_⟩
        exact fun other hmem number' hother => absurd ⟨other, hmem, number', hother⟩ hwithout
      · rw [hsome]
        by_cases hless : number < highest
        · refine .inr ⟨highest, name, if_pos hless, hnewest.concat ?_⟩
          exact fun number' hother => hname.unique hother ▸ hless
        · refine .inr ⟨number, interface.name, if_neg hless, isNewest_concat hname ?_⟩
          exact fun other hmem number' hother =>
            (hnewest.le other hmem number' hother).trans (Nat.le_of_not_lt hless)

theorem tunnelInterface?_eq_none_iff :
    tunnelInterface? interfaces = none ↔ ¬ HasTunnel interfaces := by
  rw [tunnelInterface?, Option.map_eq_none_iff]
  rcases foldl_newerTunnel_cases interfaces with ⟨hnone, hwithout⟩ | ⟨number, name, hsome, hnewest⟩
  · exact iff_of_true hnone hwithout
  · rw [hsome]
    exact iff_of_false nofun (not_not_intro hnewest.hasTunnel)

theorem exists_isNewest (h : tunnelInterface? interfaces = some name) :
    ∃ number, IsNewest interfaces name number := by
  obtain ⟨best, hbest, rfl⟩ := Option.map_eq_some_iff.1 h
  rcases foldl_newerTunnel_cases interfaces with ⟨hnone, -⟩ | ⟨number, name, hsome, hnewest⟩
  · rw [hnone] at hbest
    cases hbest
  · rw [hsome] at hbest
    obtain rfl := Option.some.inj hbest
    exact ⟨number, hnewest⟩

end Sinkhole
