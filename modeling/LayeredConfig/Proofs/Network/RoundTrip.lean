import LayeredConfig.Network.Address
import LayeredConfig.Proofs.Decimal.Digits
import Mathlib.Data.List.Basic
import Mathlib.Data.List.TakeWhile

namespace LayeredConfig.Network

/-! ### Numbers -/

def Stops (base : ℕ) (rest : List Char) : Prop := ∀ c ∈ rest.head?, digitOf? base c = none

@[simp] theorem stops_nil (base : ℕ) : Stops base [] := by simp [Stops]

theorem stops_cons {base : ℕ} {c : Char} {rest : List Char} :
    Stops base (c :: rest) ↔ digitOf? base c = none := by simp [Stops]

theorem digitOf?_digitChar : ∀ d < 16, digitOf? 16 (Nat.digitChar d) = some d ∧
    (d < 10 → digitOf? 10 (Nat.digitChar d) = some d) ∧ Nat.digitChar d ≠ '.' := by
  decide

theorem digits_of_stops {base : ℕ} {rest : List Char} (h : Stops base rest) (value count : ℕ) :
    digits base value count rest = (value, count, rest) := by
  cases rest with
  | nil => rfl
  | cons c rest => simp [digits, stops_cons.1 h]

theorem digits_rest (base value count : ℕ) (cs : List Char) :
    (digits base value count cs).2.2 = cs.dropWhile fun c => (digitOf? base c).isSome := by
  induction cs generalizing value count with
  | nil => rfl
  | cons c cs ih =>
    cases h : digitOf? base c with
    | none => simp [digits, h]
    | some v => simp [digits, h, ih]

theorem digits_toDigits {base : ℕ} (hbase : base = 10 ∨ base = 16) (n : ℕ) (rest : List Char) :
    digits base 0 0 (Nat.toDigits base n ++ rest) =
      digits base n (Nat.toDigits base n).length rest := by
  have hpos : 1 < base := by omega
  have hdigit : ∀ d < base, digitOf? base (Nat.digitChar d) = some d := by
    rcases hbase with rfl | rfl
    · exact fun d hd => (digitOf?_digitChar d (by omega)).2.1 hd
    · exact fun d hd => (digitOf?_digitChar d hd).1
  -- The induction adds digits at the end, so the rest must vary with them.
  revert rest
  refine Decimal.toDigits_induction (P := fun n cs => ∀ rest, digits base 0 0 (cs ++ rest) =
    digits base n cs.length rest) hpos ?_ ?_ n
  · intro d hd rest
    simp [digits, hdigit d hd]
  · intro n _ d hd ih rest
    rw [List.append_assoc, ih]
    simp [digits, hdigit d hd]

theorem number_toDigits {base : ℕ} (hbase : base = 10 ∨ base = 16) (width : Option ℕ)
    {bound n : ℕ} {rest : List Char} (hn : n < bound)
    (hwidth : ∀ w ∈ width, (Nat.toDigits base n).length ≤ w) (hrest : Stops base rest) :
    number base width bound (Nat.toDigits base n ++ rest) = some (n, rest) := by
  have hlength : (Nat.toDigits base n).length ≠ 0 := by
    have := Nat.length_toDigits_pos (b := base) (n := n)
    omega
  have hany : width.any (· < (Nat.toDigits base n).length) = false := by
    cases width with
    | none => rfl
    | some w => simpa using hwidth w rfl
  simp [number, digits_toDigits hbase, digits_of_stops hrest, hlength, hany, hn]

theorem number_eq_none {base : ℕ} {rest : List Char} (h : Stops base rest) (width : Option ℕ)
    (bound : ℕ) : number base width bound rest = none := by
  simp [number, digits_of_stops h]

/-! ### Version 4 -/

theorem octet_toDigits (x : UInt8) {rest : List Char} (h : Stops 10 rest) :
    octet (Nat.toDigits 10 x.toNat ++ rest) = some (x, rest) := by
  have hlt : x.toNat < 256 := x.toNat_lt
  have hwidth : (Nat.toDigits 10 x.toNat).length ≤ 3 := by
    rw [Nat.length_toDigits_le_iff (by decide) (by decide)]
    omega
  have hnumber := number_toDigits (.inl rfl) (some 3) hlt (by simpa using hwidth) h
  -- A leading zero is refused unless it is the whole number.
  have hzero : ¬((Nat.toDigits 10 x.toNat ++ rest).head? = some '0' ∧
      (Nat.toDigits 10 x.toNat ++ rest).length ≠ rest.length + 1) := by
    rintro ⟨hhead, hlength⟩
    have hx : x.toNat = 0 := by
      apply Decimal.toDigits_head?_eq_zero (Nat.one_lt_ofNat : 1 < 10) (by decide)
      cases hcs : Nat.toDigits 10 x.toNat with
      | nil => exact absurd hcs Nat.toDigits_ne_nil
      | cons c cs => simpa [hcs] using hhead
    rw [hx] at hlength
    simp [Nat.toDigits_zero] at hlength
  unfold octet
  rw [hnumber]
  simp only [Option.bind_eq_bind, Option.bind_some, if_neg hzero]
  simp

def Ipv4.chars (x : Ipv4) : List Char :=
  Nat.toDigits 10 x.a.toNat ++ '.' :: (Nat.toDigits 10 x.b.toNat ++
    '.' :: (Nat.toDigits 10 x.c.toNat ++ '.' :: Nat.toDigits 10 x.d.toNat))

theorem toList_toString_nat (n : ℕ) : (toString n).toList = Nat.toDigits 10 n := by
  rw [Nat.toString_eq_ofList_toDigits, String.toList_ofList]

theorem Ipv4.toList_text (x : Ipv4) : x.text.toList = x.chars := by
  have h (u : UInt8) : (toString u).toList = Nat.toDigits 10 u.toNat := toList_toString_nat u.toNat
  simp [Ipv4.text, String.intercalate_cons_cons, h, Ipv4.chars]

@[simp] theorem take_cons (c : Char) (rest : List Char) : take c (c :: rest) = some ((), rest) := by
  simp [take]

theorem ipv4_chars (x : Ipv4) {rest : List Char} (h : Stops 10 rest) :
    ipv4 (x.chars ++ rest) = some (x, rest) := by
  have hdot (cs : List Char) : Stops 10 ('.' :: cs) := stops_cons.2 (by decide)
  unfold ipv4 Ipv4.chars
  rw [List.append_assoc, List.cons_append, List.append_assoc, List.cons_append, List.append_assoc,
    List.cons_append, octet_toDigits x.a (hdot _)]
  simp only [Option.bind_eq_bind, Option.bind_some, take_cons]
  rw [octet_toDigits x.b (hdot _)]
  simp only [Option.bind_some, take_cons]
  rw [octet_toDigits x.c (hdot _)]
  simp only [Option.bind_some, take_cons]
  rw [octet_toDigits x.d h]
  rfl

/-- A text whose leading decimal digits no point follows is no version 4 address. -/
theorem ipv4_eq_none {cs : List Char}
    (h : (cs.dropWhile fun c => (digitOf? 10 c).isSome).head? ≠ some '.') : ipv4 cs = none := by
  unfold ipv4
  cases hoctet : octet cs with
  | none => rfl
  | some r =>
    obtain ⟨x, rest⟩ := r
    have hrest : rest = cs.dropWhile fun c => (digitOf? 10 c).isSome := by
      rw [← digits_rest 10 0 0 cs]
      unfold octet number at hoctet
      simp only [Option.bind_eq_bind, Option.bind_eq_some_iff] at hoctet
      obtain ⟨⟨n, rest'⟩, hnumber, hoctet⟩ := hoctet
      split at hnumber
      · cases hnumber
      · obtain ⟨-, rfl⟩ := Prod.mk.inj (Option.some.inj hnumber)
        simp only at hoctet
        split at hoctet
        · simp at hoctet
        · simp at hoctet
          exact hoctet.2.symm
    have htake : take '.' rest = none := by
      rw [← hrest] at h
      cases rest with
      | nil => rfl
      | cons c rest =>
        have hne : c ≠ '.' := by simpa using h
        simp [take, hne]
    simp [htake]

/-! ### Groups -/

/-- Nothing that could belong to a group comes next, nor a colon with a group behind it. -/
structure EndsGroups (rest : List Char) : Prop where
  stops : Stops 16 rest
  noPoint : rest.head? ≠ some '.'
  afterColon : ∀ r, rest = ':' :: r → Stops 16 r ∧ r.head? ≠ some '.'

theorem digitOf?_ten_of_sixteen {c : Char} (h : digitOf? 16 c = none) : digitOf? 10 c = none := by
  unfold digitOf? at h ⊢
  by_cases hdigit : c.isDigit = true
  · have hle : c.toNat ≤ 57 := by
      simp only [Char.isDigit, Bool.and_eq_true, decide_eq_true_eq] at hdigit
      exact hdigit.2
    have hlt : c.toNat - 48 < 16 := by omega
    simp [hdigit, hlt] at h
  · by_cases halpha : c.isAlpha = true
    · simp only [if_neg hdigit, if_pos halpha] at h ⊢
      split at h
      · cases h
      · rw [if_neg (by omega)]
    · simp [hdigit, halpha]

theorem ipv4_eq_none_of_stops {cs : List Char} (hstops : Stops 16 cs)
    (hpoint : cs.head? ≠ some '.') : ipv4 cs = none := by
  apply ipv4_eq_none
  cases cs with
  | nil => simp
  | cons c cs =>
    have hten : digitOf? 10 c = none := digitOf?_ten_of_sixteen (stops_cons.1 hstops)
    simpa [hten] using hpoint

/-- A group in hexadecimal that no point follows is no version 4 address. -/
theorem ipv4_group_eq_none (n : ℕ) {rest : List Char} (hstops : Stops 16 rest)
    (hpoint : rest.head? ≠ some '.') : ipv4 (Nat.toDigits 16 n ++ rest) = none := by
  apply ipv4_eq_none
  have hchars : ∀ c ∈ Nat.toDigits 16 n, c ≠ '.' := by
    intro c hc
    obtain ⟨d, hd, rfl⟩ := Decimal.digitChar_of_mem_toDigits (by decide) hc
    exact (digitOf?_digitChar d hd).2.2
  -- Only that no digit is a point matters from here on.
  generalize Nat.toDigits 16 n = cs at hchars
  induction cs with
  | nil =>
    cases rest with
    | nil => simp
    | cons c rest =>
      have hten : digitOf? 10 c = none := digitOf?_ten_of_sixteen (stops_cons.1 hstops)
      simpa [hten] using hpoint
  | cons c cs ih =>
    cases hc : digitOf? 10 c with
    | none => simpa [hc] using hchars c (by simp)
    | some d => simpa [hc] using ih fun x hx => hchars x (by simp [hx])

def groupItem (first : Bool) (cs : List Char) : Option (List Char) :=
  if first then some cs else (take ':' cs).map Prod.snd

theorem groups_number {first : Bool} {limit n : ℕ} {cs item rest : List Char}
    (hitem : groupItem first cs = some item) (hv4 : ipv4 item = none)
    (hnumber : number 16 (some 4) 65536 item = some (n, rest)) :
    groups first (limit + 1) cs =
      (n.toUInt16 :: (groups false limit rest).1, (groups false limit rest).2) := by
  unfold groupItem at hitem
  rw [groups]
  simp only [hitem, Option.bind_some, hv4, hnumber]
  simp

theorem groups_embedded {first : Bool} {limit : ℕ} {cs item rest : List Char} {x : Ipv4}
    (hitem : groupItem first cs = some item) (hv4 : ipv4 item = some (x, rest)) :
    groups first (limit + 2) cs = (x.asGroups, true, rest) := by
  unfold groupItem at hitem
  rw [groups]
  simp [hitem, hv4]

theorem groups_end {first : Bool} {limit : ℕ} {cs : List Char}
    (h : ∀ item ∈ groupItem first cs, Stops 16 item ∧ item.head? ≠ some '.') :
    groups first limit cs = ([], false, cs) := by
  cases limit with
  | zero => rfl
  | succ limit =>
    rw [groups]
    cases hitem : groupItem first cs with
    | none =>
      unfold groupItem at hitem
      simp [hitem]
    | some item =>
      obtain ⟨hstops, hpoint⟩ := h item hitem
      unfold groupItem at hitem
      simp [hitem, ipv4_eq_none_of_stops hstops hpoint, number_eq_none hstops]

def groupChars (first : Bool) : List UInt16 → List Char
  | [] => []
  | g :: gs => (if first then [] else [':']) ++ Nat.toDigits 16 g.toNat ++ groupChars false gs

theorem toList_groupsText (gs : List UInt16) : (groupsText gs).toList = groupChars true gs := by
  unfold groupsText
  induction gs with
  | nil => rfl
  | cons g gs ih =>
    cases gs with
    | nil => simp [groupChars]
    | cons g' gs =>
      simp only [List.map_cons] at ih
      simp [String.intercalate_cons_cons, groupChars, ih]

theorem EndsGroups.group {rest : List Char} (h : EndsGroups rest) (gs : List UInt16) :
    Stops 16 (groupChars false gs ++ rest) ∧ (groupChars false gs ++ rest).head? ≠ some '.' := by
  cases gs with
  | nil => exact ⟨h.stops, h.noPoint⟩
  | cons g gs => exact ⟨stops_cons.2 (by decide), by simp [groupChars]⟩

/-- Groups that fit read back, up to what cannot be one. -/
theorem groups_groupChars (first : Bool) {limit : ℕ} {gs : List UInt16} {rest : List Char}
    (hlength : gs.length ≤ limit) (hrest : EndsGroups rest) :
    groups first limit (groupChars first gs ++ rest) = (gs, false, rest) := by
  induction gs generalizing first limit with
  | nil =>
    apply groups_end
    intro item hitem
    cases first with
    | true =>
      obtain rfl : rest = item := by simpa [groupItem, groupChars] using hitem
      exact ⟨hrest.stops, hrest.noPoint⟩
    | false =>
      cases rest with
      | nil => simp [groupItem, groupChars, take] at hitem
      | cons c rest =>
        by_cases hc : c = ':'
        · subst hc
          obtain rfl : rest = item := by simpa [groupItem, groupChars] using hitem
          exact hrest.afterColon rest rfl
        · simp [groupItem, groupChars, take, hc] at hitem
  | cons g gs ih =>
    cases limit with
    | zero => simp at hlength
    | succ limit =>
      obtain ⟨hstops, hpoint⟩ := hrest.group gs
      have hlt : g.toNat < 65536 := g.toNat_lt
      have hwidth : (Nat.toDigits 16 g.toNat).length ≤ 4 := by
        rw [Nat.length_toDigits_le_iff (by decide) (by decide)]
        omega
      have hnumber := number_toDigits (.inr rfl) (some 4) hlt (by simpa using hwidth) hstops
      have hitem : groupItem first (groupChars first (g :: gs) ++ rest) =
          some (Nat.toDigits 16 g.toNat ++ (groupChars false gs ++ rest)) := by
        cases first <;> simp [groupItem, groupChars]
      rw [groups_number hitem (ipv4_group_eq_none g.toNat hstops hpoint) hnumber,
        ih false (by simpa using hlength)]
      simp

/-! ### Version 6 -/

theorem longestZeros_spec (gs : List UInt16) :
    gs = gs.take (longestZeros gs).1 ++ List.replicate (longestZeros gs).2 0 ++
      gs.drop ((longestZeros gs).1 + (longestZeros gs).2) := by
  induction gs with
  | nil => rfl
  | cons g gs ih =>
    unfold longestZeros
    dsimp only
    split
    · have hzeros : (g :: gs).takeWhile (· == 0) =
          List.replicate (leadingZeros (g :: gs)) 0 := by
        refine List.eq_replicate_iff.2 ⟨rfl, fun b hb => ?_⟩
        simpa using List.mem_takeWhile_imp hb
      have hsplit := (List.takeWhile_append_dropWhile (p := (· == 0)) (l := g :: gs)).symm
      have hdrop : (g :: gs).drop (leadingZeros (g :: gs)) = (g :: gs).dropWhile (· == 0) := by
        have h := congrArg (List.drop (leadingZeros (g :: gs))) hsplit
        rwa [hzeros, List.drop_left' List.length_replicate] at h
      rw [List.take_zero, List.nil_append, Nat.zero_add, hdrop, ← hzeros]
      exact hsplit
    · simp only [List.take_succ_cons, List.cons_append]
      rw [Nat.add_right_comm, List.drop_succ_cons]
      exact congrArg (g :: ·) ih

theorem Ipv6.ofList?_toList (x : Ipv6) : Ipv6.ofList? x.groups.toList = some x := by
  have hlength : x.groups.toList.length = 8 := by simp
  rw [Ipv6.ofList?, dif_pos hlength]
  rfl

theorem endsGroups_colons (cs : List Char) : EndsGroups (':' :: ':' :: cs) := by
  refine ⟨stops_cons.2 (by decide), by simp, ?_⟩
  rintro r h
  obtain rfl : ':' :: cs = r := (List.cons.inj h).2
  exact ⟨stops_cons.2 (by decide), by simp⟩

theorem endsGroups_cons {c : Char} (hdigit : digitOf? 16 c = none) (hpoint : c ≠ '.')
    (hcolon : c ≠ ':') (cs : List Char) : EndsGroups (c :: cs) :=
  ⟨stops_cons.2 hdigit, by simpa using hpoint, fun _ h => absurd (List.cons.inj h).1 hcolon⟩

/-- Groups around a double colon read back with the zeros that it stands for. -/
theorem ipv6_compressed {x : Ipv6} {head tail : List UInt16} {count : ℕ} (hcount : 1 < count)
    (hgroups : x.groups.toList = head ++ List.replicate count 0 ++ tail) {rest : List Char}
    (hrest : EndsGroups rest) :
    ipv6 (groupChars true head ++ ':' :: ':' :: (groupChars true tail ++ rest)) =
      some (x, rest) := by
  have hlength : head.length + count + tail.length = 8 := by
    have h := congrArg List.length hgroups
    simp only [Vector.length_toList, List.length_append, List.length_replicate] at h
    omega
  have hheadLength : head.length ≤ 8 := by omega
  have htailLength : tail.length ≤ 7 - head.length := by omega
  have hhead := groups_groupChars true hheadLength
    (endsGroups_colons (groupChars true tail ++ rest))
  have htail := groups_groupChars true htailLength hrest
  have hzeros : 8 - head.length - tail.length = count := by omega
  have hofList := x.ofList?_toList
  rw [hgroups] at hofList
  have hne : ¬head.length = 8 := by omega
  rw [List.append_assoc] at hofList
  unfold ipv6
  simp [hhead, htail, hne, hzeros, hofList]

theorem ipv6_full (x : Ipv6) {rest : List Char} (hrest : EndsGroups rest) :
    ipv6 (groupChars true x.groups.toList ++ rest) = some (x, rest) := by
  have hlength : x.groups.toList.length = 8 := by simp
  have hgroups := groups_groupChars true hlength.le hrest
  unfold ipv6
  simp only [hgroups, hlength, if_pos]
  simp [x.ofList?_toList]

def lastOctets (g h : UInt16) : Ipv4 :=
  ⟨(g.toNat / 256).toUInt8, (g.toNat % 256).toUInt8, (h.toNat / 256).toUInt8,
    (h.toNat % 256).toUInt8⟩

theorem asGroups_lastOctets (g h : UInt16) : (lastOctets g h).asGroups = [g, h] := by
  have hgroup (g : UInt16) :
      (g.toNat / 256).toUInt8.toUInt16 * 256 + (g.toNat % 256).toUInt8.toUInt16 = g := by
    apply UInt16.toNat.inj
    have hlt : g.toNat < 65536 := g.toNat_lt
    simp
    omega
  simp [Ipv4.asGroups, lastOctets, hgroup]

theorem ipv6_mapped {x : Ipv6} {g h : UInt16}
    (hgroups : x.groups.toList = [0, 0, 0, 0, 0, 0xFFFF, g, h]) {rest : List Char}
    (hrest : EndsGroups rest) :
    ipv6 ("::ffff:".toList ++ ((lastOctets g h).chars ++ rest)) = some (x, rest) := by
  have hten : Stops 10 rest := by
    intro c hc
    exact digitOf?_ten_of_sixteen (hrest.stops c hc)
  have hv4 := ipv4_chars (lastOctets g h) hten
  -- The embedded address is only read as a whole.
  generalize (lastOctets g h).chars ++ rest = cs at hv4 ⊢
  -- No group stands before the double colon; three are read behind it, the last two at once.
  have hhead : groups true 8 (':' :: ':' :: 'f' :: 'f' :: 'f' :: 'f' :: ':' :: cs) =
      ([], false, ':' :: ':' :: 'f' :: 'f' :: 'f' :: 'f' :: ':' :: cs) :=
    groups_groupChars true (List.length_nil.trans_le (Nat.zero_le 8)) (endsGroups_colons _)
  have hffff : Nat.toDigits 16 0xFFFF = ['f', 'f', 'f', 'f'] := by decide
  have hstops : Stops 16 (':' :: cs) := stops_cons.2 (by decide)
  have hlt : 0xFFFF < 65536 := by decide
  have hnumber := number_toDigits (.inr rfl) (some 4) hlt (by simp [hffff]) hstops
  have hnone := ipv4_group_eq_none 0xFFFF hstops (by simp)
  have hlast : groups false 6 (':' :: cs) = ([g, h], true, rest) := by
    rw [groups_embedded (by simp [groupItem]) hv4, asGroups_lastOctets]
  have htail : groups true 7 ('f' :: 'f' :: 'f' :: 'f' :: ':' :: cs) =
      ([0xFFFF, g, h], true, rest) := by
    rw [hffff] at hnumber hnone
    rw [groups_number rfl hnone hnumber, hlast]
    rfl
  have hofList := x.ofList?_toList
  rw [hgroups] at hofList
  have hcs : "::ffff:".toList ++ cs = ':' :: ':' :: 'f' :: 'f' :: 'f' :: 'f' :: ':' :: cs := by
    simp
  rw [hcs]
  unfold ipv6
  simp [hhead, htail, hofList]

/-- The last two octets are written as those of a version 4 address. -/
theorem toList_mapped (g h : UInt16) : (".".intercalate ([g, h].flatMap fun g =>
    [toString (g.toNat / 256), toString (g.toNat % 256)])).toList = (lastOctets g h).chars := by
  have hhigh (g : UInt16) : (g.toNat / 256).toUInt8.toNat = g.toNat / 256 := by
    have hlt : g.toNat < 65536 := g.toNat_lt
    simp
    omega
  have hlow (g : UInt16) : (g.toNat % 256).toUInt8.toNat = g.toNat % 256 := by simp
  simp only [List.flatMap_cons, List.flatMap_nil, List.cons_append, List.nil_append,
    List.append_nil, String.intercalate_cons_cons, String.intercalate_singleton,
    String.toList_append, toList_toString_nat, Ipv4.chars, lastOctets, hhigh, hlow]
  simp

/-- A version 6 address reads back from its text. -/
theorem ipv6_text (x : Ipv6) {rest : List Char} (hrest : EndsGroups rest) :
    ipv6 (x.text.toList ++ rest) = some (x, rest) := by
  unfold Ipv6.text
  dsimp only
  split
  · next htake =>
    have hlength : (x.groups.toList.drop 6).length = 2 := by simp
    obtain ⟨g, h, hdrop⟩ := List.length_eq_two.1 hlength
    have hgroups : x.groups.toList = [0, 0, 0, 0, 0, 0xFFFF, g, h] := by
      rw [← List.take_append_drop 6 x.groups.toList, htake, hdrop]
      rfl
    rw [hdrop, String.toList_append, toList_mapped, List.append_assoc]
    exact ipv6_mapped hgroups hrest
  · split
    · next hcount =>
      rw [String.toList_append, String.toList_append, toList_groupsText, toList_groupsText]
      have h := ipv6_compressed hcount (longestZeros_spec x.groups.toList) hrest
      simpa using h
    · rw [toList_groupsText]
      exact ipv6_full x hrest

/-- Before the first colon of a version 6 address there is no point. -/
theorem ipv4_text_eq_none (x : Ipv6) (rest : List Char) : ipv4 (x.text.toList ++ rest) = none := by
  have hcolon (cs : List Char) : Stops 16 (':' :: cs) ∧ (':' :: cs).head? ≠ some '.' :=
    ⟨stops_cons.2 (by decide), by simp⟩
  have hgroups (gs : List UInt16) (cs : List Char) :
      ipv4 (groupChars true gs ++ ':' :: cs) = none := by
    cases gs with
    | nil => exact ipv4_eq_none_of_stops (hcolon cs).1 (hcolon cs).2
    | cons g gs =>
      have htail : Stops 16 (groupChars false gs ++ ':' :: cs) ∧
          (groupChars false gs ++ ':' :: cs).head? ≠ some '.' := by
        cases gs with
        | nil => exact hcolon cs
        | cons g' gs => exact ⟨stops_cons.2 (by decide), by simp [groupChars]⟩
      simpa [groupChars] using ipv4_group_eq_none g.toNat htail.1 htail.2
  unfold Ipv6.text
  dsimp only
  split
  · rw [String.toList_append, List.append_assoc]
    exact hgroups [] _
  · split
    · rw [String.toList_append, String.toList_append, toList_groupsText, toList_groupsText]
      simpa using hgroups _ _
    · rw [toList_groupsText]
      have hlength : x.groups.toList.length = 8 := by simp
      obtain ⟨g, gs, hgs⟩ := List.exists_cons_of_length_eq_add_one hlength
      -- Eight groups are at least two, so a colon follows the first one.
      obtain ⟨g', gs', rfl⟩ : ∃ g' gs', gs = g' :: gs' := by
        rw [hgs] at hlength
        exact List.exists_cons_of_length_eq_add_one (n := 6) (by simpa using hlength)
      rw [hgs]
      simpa [groupChars] using
        hgroups [g] (Nat.toDigits 16 g'.toNat ++ groupChars false gs' ++ rest)

/-! ### No blanks -/

theorem Ipv4.unbroken_chars (x : Ipv4) : Text.Unbroken x.chars := by
  have hdigits (n : ℕ) : Text.Unbroken (Nat.toDigits 10 n) :=
    Decimal.unbroken_toDigits (by decide) (by decide) n
  have hpoint : Text.isBlank '.' = false := by decide
  simp [Ipv4.chars, hdigits, hpoint]

theorem unbroken_groupChars (first : Bool) (gs : List UInt16) :
    Text.Unbroken (groupChars first gs) := by
  induction gs generalizing first with
  | nil => simp [groupChars]
  | cons g gs ih =>
    have hdigits := Decimal.unbroken_toDigits (Nat.one_lt_ofNat : 1 < 16) le_rfl g.toNat
    have hcolon : Text.isBlank ':' = false := by decide
    cases first <;> simp [groupChars, hdigits, hcolon, ih]

theorem Ipv6.unbroken_text (x : Ipv6) : Text.Unbroken x.text.toList := by
  have hcolons : Text.Unbroken "::".toList := by simp; decide
  unfold Ipv6.text
  dsimp only
  split
  · have hlength : (x.groups.toList.drop 6).length = 2 := by simp
    obtain ⟨g, h, hdrop⟩ := List.length_eq_two.1 hlength
    have hpre : Text.Unbroken "::ffff:".toList := by simp; decide
    rw [hdrop, String.toList_append, toList_mapped]
    exact Text.unbroken_append.2 ⟨hpre, Ipv4.unbroken_chars _⟩
  · split
    · simp only [String.toList_append, toList_groupsText, Text.unbroken_append]
      exact ⟨⟨unbroken_groupChars _ _, hcolons⟩, unbroken_groupChars _ _⟩
    · rw [toList_groupsText]
      exact unbroken_groupChars _ _

theorem IpAddress.unbroken_text (x : IpAddress) : Text.Unbroken x.text.toList := by
  cases x with
  | v4 x => simpa [IpAddress.text, Ipv4.toList_text] using x.unbroken_chars
  | v6 x => exact x.unbroken_text

theorem SocketAddress.unbroken_text (x : SocketAddress) : Text.Unbroken x.text.toList := by
  have hport (p : UInt16) : Text.Unbroken (toString p).toList := by
    have h : (toString p).toList = Nat.toDigits 10 p.toNat := toList_toString_nat p.toNat
    rw [h]
    exact Decimal.unbroken_toDigits (by decide) (by decide) _
  have hzone (zone : UInt32) :
      Text.Unbroken (if zone = 0 then "" else "%" ++ toString zone).toList := by
    split
    · simp
    · have h : (toString zone).toList = Nat.toDigits 10 zone.toNat := toList_toString_nat zone.toNat
      rw [String.toList_append, h, Text.unbroken_append]
      exact ⟨by simp; decide, Decimal.unbroken_toDigits (by decide) (by decide) _⟩
  have hsigns : Text.Unbroken [':', '[', ']'] := by simp; decide
  cases x with
  | v4 x p => simp_all [SocketAddress.text, Ipv4.toList_text, x.unbroken_chars]
  | v6 x flow zone p => simp_all [SocketAddress.text, x.unbroken_text]

/-! ### Addresses -/

/-- An address reads back from its text. -/
theorem IpAddress.read?_text (x : IpAddress) : IpAddress.read? x.text = some x := by
  unfold IpAddress.read? readWhole ipAddress
  cases x with
  | v4 x =>
    have h := ipv4_chars x (stops_nil 10)
    rw [List.append_nil] at h
    simp [IpAddress.text, Ipv4.toList_text, h]
  | v6 x =>
    have hend : EndsGroups [] := ⟨stops_nil 16, by simp, by simp⟩
    have h := ipv6_text x hend
    have hnone := ipv4_text_eq_none x []
    rw [List.append_nil] at h hnone
    simp [IpAddress.text, h, hnone]

theorem port_toDigits (p : UInt16) :
    port (':' :: Nat.toDigits 10 p.toNat) = some (p, []) := by
  have hlt : p.toNat < 65536 := p.toNat_lt
  have h := number_toDigits (.inl rfl) none hlt (by simp) (stops_nil 10)
  rw [List.append_nil] at h
  simp [port, h]

/-- What names the scope of a version 6 address; no scope is not written. -/
theorem scope_text (scope' : UInt32) (cs : List Char) :
    (scope ((if scope' = 0 then "" else "%" ++ toString scope').toList ++ ']' :: cs)).getD
      (0, (if scope' = 0 then "" else "%" ++ toString scope').toList ++ ']' :: cs) =
      (scope', ']' :: cs) := by
  split
  · next h =>
    subst h
    simp [scope, take]
  · have hlt : scope'.toNat < 2 ^ 32 := scope'.toNat_lt
    have hdigits : (toString scope').toList = Nat.toDigits 10 scope'.toNat :=
      toList_toString_nat scope'.toNat
    have hstops : Stops 10 (']' :: cs) := stops_cons.2 (by decide)
    have h := number_toDigits (.inl rfl) none hlt (by simp) hstops
    have hscope : scope ('%' :: (Nat.toDigits 10 scope'.toNat ++ ']' :: cs)) =
        some (scope', ']' :: cs) := by
      simp only [scope, take_cons, Option.bind_eq_bind, Option.bind_some, h]
      simp
    simp [hdigits, hscope]

/-- The address without the flow information, which its text does not say. -/
def SocketAddress.withoutFlow : SocketAddress → SocketAddress
  | v4 x p => v4 x p
  | v6 x _ zone p => v6 x 0 zone p

def SocketAddress.flow : SocketAddress → UInt32
  | v4 _ _ => 0
  | v6 _ flow _ _ => flow

theorem SocketAddress.withoutFlow_eq_self_iff {x : SocketAddress} :
    x.withoutFlow = x ↔ x.flow = 0 := by
  cases x with
  | v4 x p => simp [withoutFlow, flow]
  | v6 x flow zone p => simp [withoutFlow, SocketAddress.flow, eq_comm]

theorem flow_of_socketV4 {cs rest : List Char} {x : SocketAddress}
    (h : socketV4 cs = some (x, rest)) : x.flow = 0 := by
  simp only [socketV4, Option.bind_eq_bind, Option.bind_eq_some_iff, Option.pure_def,
    Option.some.injEq, Prod.mk.injEq] at h
  obtain ⟨_, _, _, _, rfl, _⟩ := h
  rfl

theorem flow_of_socketV6 {cs rest : List Char} {x : SocketAddress}
    (h : socketV6 cs = some (x, rest)) : x.flow = 0 := by
  simp only [socketV6, Option.bind_eq_bind, Option.bind_eq_some_iff, Option.pure_def,
    Option.some.injEq, Prod.mk.injEq] at h
  obtain ⟨_, _, _, _, _, _, _, _, rfl, _⟩ := h
  rfl

/-- No text gives flow information. -/
theorem SocketAddress.flow_of_read? {s : String} {x : SocketAddress}
    (h : SocketAddress.read? s = some x) : x.flow = 0 := by
  unfold SocketAddress.read? readWhole at h
  split at h
  next y hread =>
    obtain rfl := Option.some.inj h
    obtain hv4 | ⟨-, hv6⟩ := (Option.orElse_eq_some _ _ _).1 hread
    · exact flow_of_socketV4 hv4
    · exact flow_of_socketV6 hv6
  next => cases h

/-- A socket address reads back from its text, but for the flow information. -/
theorem SocketAddress.read?_text (x : SocketAddress) :
    SocketAddress.read? x.text = some x.withoutFlow := by
  unfold SocketAddress.read? readWhole socketAddress
  have hport (p : UInt16) : (toString p).toList = Nat.toDigits 10 p.toNat :=
    toList_toString_nat p.toNat
  cases x with
  | v4 x p =>
    have hstops : Stops 10 (':' :: Nat.toDigits 10 p.toNat) := stops_cons.2 (by decide)
    have h := ipv4_chars x hstops
    simp [SocketAddress.text, SocketAddress.withoutFlow, Ipv4.toList_text, socketV4, hport, h,
      port_toDigits]
  | v6 x flow zone p =>
    have hbracket (cs : List Char) : ipv4 ('[' :: cs) = none :=
      ipv4_eq_none_of_stops (stops_cons.2 (by decide)) (by simp)
    have hzone := scope_text zone (':' :: Nat.toDigits 10 p.toNat)
    have hend : EndsGroups ((if zone = 0 then "" else "%" ++ toString zone).toList ++
        ']' :: ':' :: Nat.toDigits 10 p.toNat) := by
      split
      · exact endsGroups_cons (by decide) (by decide) (by decide) _
      · rw [String.toList_append]
        exact endsGroups_cons (by decide) (by decide) (by decide) _
    have h := ipv6_text x hend
    have htext : (SocketAddress.v6 x flow zone p).text.toList = '[' :: (x.text.toList ++
        ((if zone = 0 then "" else "%" ++ toString zone).toList ++
          ']' :: ':' :: Nat.toDigits 10 p.toNat)) := by
      simp [SocketAddress.text, hport]
    rw [htext]
    -- Whether a scope is written has been settled by `scope_text`.
    generalize (if zone = 0 then "" else "%" ++ toString zone) = suffix at hzone h
    simp [SocketAddress.withoutFlow, socketV4, hbracket, socketV6, h, hzone, port_toDigits]

end LayeredConfig.Network
