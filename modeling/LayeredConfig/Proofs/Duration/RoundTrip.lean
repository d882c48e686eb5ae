import LayeredConfig.Duration.Reader
import LayeredConfig.Proofs.Decimal.Digits
import LayeredConfig.Proofs.Text.Blank

namespace LayeredConfig.Duration

/-- From a position and with a sum so far, the text adds up to a sum. -/
def Reads (d : Duration) (position : Position) (cs : List Char) (sum : Duration) : Prop :=
  ∀ offset, readFrom d position offset cs = .ok sum

variable {d d' sum : Duration} {cs : List Char}

/-! ### Ranges -/

theorem within64_eq {n : ℕ} (h : n < 2 ^ 64) : within64 n = .ok n := if_pos h

theorem ofNanoseconds?_eq {n : ℕ} (h : d.nanoseconds = n) : ofNanoseconds? n = some d := by
  subst h
  exact dif_pos d.inRange

theorem subseconds_add_lt (d : Duration) {n : ℕ} (hn : n < 10 ^ 9) :
    d.subseconds + n < 2 ^ 64 := by
  have hsub : d.subseconds < 10 ^ 9 := Nat.mod_lt _ (by decide)
  omega

theorem seconds_lt {n : ℕ} (h : n * 10 ^ 9 < 2 ^ 64 * 10 ^ 9) : n < 2 ^ 64 := by omega

/-! ### Numbers and units -/

inductive Position.IsOpen : Position → Prop
  | start : IsOpen .start
  | gap {offset : ℕ} : IsOpen (.gap offset)

theorem digit?_digitChar : ∀ v < 10, digit? (Nat.digitChar v) = some v := by decide

/-- The digits of a number are taken in one by one. -/
theorem Reads.digits {position : Position} (hopen : position.IsOpen) {n : ℕ} (hn : n < 2 ^ 64)
    (h : Reads d (.number n) cs sum) : Reads d position (Nat.toDigits 10 n ++ cs) sum := by
  revert cs
  refine Decimal.toDigits_induction (P := fun n ds => n < 2 ^ 64 →
    ∀ {cs}, Reads d (.number n) cs sum → Reads d position (ds ++ cs) sum) (by decide) ?_ ?_ n hn
  · intro v hv _ cs h offset
    cases hopen <;>
      · simp only [List.singleton_append, readFrom, Position.step, digit?_digitChar v hv]
        exact h _
  · intro n _ v hv ih hn cs h
    -- A prefix of a number that fits fits too.
    have hprevious : n < 2 ^ 64 := by omega
    have hdigit : Reads d (.number n) (Nat.digitChar v :: cs) sum := by
      intro offset
      simp only [readFrom, Position.step, digit?_digitChar v hv, within64_eq hn]
      exact h _
    rw [List.append_assoc]
    exact ih hprevious hdigit

def IsLetter (c : Char) : Prop :=
  digit? c = none ∧ Text.isBlank c = false ∧ isUnitLetter c = true

instance (c : Char) : Decidable (IsLetter c) := by unfold IsLetter; infer_instance

theorem Reads.letters {n : ℕ} {seen letters : List Char} (hletters : ∀ c ∈ letters, IsLetter c)
    (h : Reads d (.unit n none (letters.reverse ++ seen)) cs sum) :
    Reads d (.unit n none seen) (letters ++ cs) sum := by
  induction letters generalizing seen with
  | nil => simpa using h
  | cons c letters ih =>
    obtain ⟨hdigit, hblank, hletter⟩ := hletters c (by simp)
    intro offset
    simp only [List.cons_append, readFrom, Position.step, hdigit, hblank, hletter]
    exact ih (fun c hc => hletters c (by simp [hc])) (by simpa using h) _

theorem Reads.unit {n : ℕ} {letters : List Char} (hne : letters ≠ [])
    (hletters : ∀ c ∈ letters, IsLetter c) (h : Reads d (.unit n none letters.reverse) cs sum) :
    Reads d (.number n) (letters ++ cs) sum := by
  cases letters with
  | nil => exact absurd rfl hne
  | cons c letters =>
    obtain ⟨hdigit, hblank, hletter⟩ := hletters c (by simp)
    intro offset
    simp only [List.cons_append, readFrom, Position.step, hdigit, hblank, hletter]
    exact Reads.letters (fun c hc => hletters c (by simp [hc])) (by simpa using h) _

/-! ### Counts of units -/

structure Counted where
  count : ℕ
  unit : TimeUnit
  name : String

namespace Counted

def text (i : Counted) : String := toString i.count ++ i.name

def nanoseconds (i : Counted) : ℕ := i.count * i.unit.nanoseconds

/-- The name is one of the unit's, in letters, and what is below a second stays there. -/
structure Legible (i : Counted) : Prop where
  name_eq : TimeUnit.ofName? i.name = some i.unit
  letters : ∀ c ∈ i.name.toList, IsLetter c
  nonempty : i.name.toList ≠ []
  fine : i.unit.nanoseconds < 10 ^ 9 → i.nanoseconds < 10 ^ 9

def chars (is : List Counted) : List Char := [' '].intercalate (is.map fun i => i.text.toList)

def total (is : List Counted) : ℕ := (is.map nanoseconds).sum

theorem toList_text (i : Counted) : i.text.toList = Nat.toDigits 10 i.count ++ i.name.toList := by
  rw [text, String.toList_append, Nat.toString_eq_ofList_toDigits, String.toList_ofList]

theorem toList_intercalate (is : List Counted) :
    (" ".intercalate (is.map text)).toList = chars is := by
  simp [chars, Function.comp_def]

theorem plus_eq {seconds nanoseconds : ℕ} (hfine : nanoseconds < 10 ^ 9)
    (hsum : d'.nanoseconds = d.nanoseconds + seconds * 10 ^ 9 + nanoseconds) :
    d.plus seconds nanoseconds = .ok d' := by
  unfold plus
  rw [within64_eq (d.subseconds_add_lt hfine), ofNanoseconds?_eq hsum]
  rfl

theorem Legible.whole_eq {i : Counted} (hi : i.Legible) (hrange : i.nanoseconds < 2 ^ 64 * 10 ^ 9) :
    ∃ seconds nanoseconds, whole i.count i.unit = .ok (seconds, nanoseconds) ∧
      nanoseconds < 10 ^ 9 ∧ seconds * 10 ^ 9 + nanoseconds = i.nanoseconds := by
  unfold whole
  by_cases hunit : i.unit.nanoseconds < 10 ^ 9
  · have hfine := hi.fine hunit
    refine ⟨0, i.nanoseconds, ?_, hfine, by omega⟩
    rw [if_pos hunit, ← nanoseconds, within64_eq (by omega)]
    rfl
  · -- From the second up, units are whole seconds.
    have hwhole : i.unit.nanoseconds / 10 ^ 9 * 10 ^ 9 = i.unit.nanoseconds := by
      cases hname : i.unit <;> simp [hname, TimeUnit.nanoseconds] at hunit ⊢
    have hcount : i.count * (i.unit.nanoseconds / 10 ^ 9) * 10 ^ 9 = i.nanoseconds := by
      rw [Nat.mul_assoc, hwhole, nanoseconds]
    have hsmall : i.count * (i.unit.nanoseconds / 10 ^ 9) < 2 ^ 64 :=
      seconds_lt (hcount.trans_lt hrange)
    refine ⟨i.count * (i.unit.nanoseconds / 10 ^ 9), 0, ?_, by decide,
      (Nat.add_zero _).trans hcount⟩
    rw [if_neg hunit, within64_eq hsmall]
    rfl

theorem Legible.addItem_eq {i : Counted} (hi : i.Legible)
    (hsum : d'.nanoseconds = d.nanoseconds + i.nanoseconds) :
    addItem d i.count none i.name.toList = .ok d' := by
  have hrange := d'.inRange
  obtain ⟨seconds, nanoseconds, hwhole, hfine, htotal⟩ := hi.whole_eq (by omega)
  have hplus : d.plus seconds nanoseconds = .ok d' := plus_eq hfine (by omega)
  have hne : i.name.toList.isEmpty = false := by simpa using hi.nonempty
  simp only [addItem, hne, String.ofList_toList, hi.name_eq]
  simp [hwhole, hplus, Except.bind, bind, pure, Except.pure]

theorem Legible.count_lt {i : Counted} (hrange : i.nanoseconds < 2 ^ 64 * 10 ^ 9)
    (hi : i.Legible) : i.count < 2 ^ 64 := by
  have hpos : 1 ≤ i.unit.nanoseconds := by cases i.unit <;> decide
  have hle : i.count ≤ i.nanoseconds := Nat.le_mul_of_pos_right _ hpos
  by_cases hunit : i.unit.nanoseconds < 10 ^ 9
  · have hfine := hi.fine hunit
    omega
  · -- A coarse unit has a second or more, so its count is no more than the seconds.
    have hmul : i.count * 10 ^ 9 ≤ i.nanoseconds := Nat.mul_le_mul_left _ (by omega)
    omega

/-- Counts with blanks between them add up. -/
theorem reads_chars {is : List Counted} (hne : is ≠ []) (his : ∀ i ∈ is, i.Legible)
    (hsum : sum.nanoseconds = d.nanoseconds + total is) {position : Position}
    (hopen : position.IsOpen) : Reads d position (chars is) sum := by
  induction is generalizing d position with
  | nil => exact absurd rfl hne
  | cons i rest ih =>
    have hi : i.Legible := his i (by simp)
    have hrange := sum.inRange
    have htotal : total (i :: rest) = i.nanoseconds + total rest := by simp [total]
    -- The sum once this count is added stays in range, because the whole does.
    let d' : Duration := ⟨d.nanoseconds + i.nanoseconds, by omega⟩
    have hadd : addItem d i.count none i.name.toList = .ok d' := hi.addItem_eq rfl
    have hcount : i.count < 2 ^ 64 := hi.count_lt (by omega)
    cases rest with
    | nil =>
      have hd' : d' = sum := by
        have hall : d'.nanoseconds = sum.nanoseconds := by simp [hsum, total, d']
        cases sum
        simpa [d'] using hall
      have hend : Reads d (.unit i.count none i.name.toList.reverse) [] sum := by
        intro offset
        rw [readFrom, Position.finish, List.reverse_reverse, hadd, hd']
      have h := (Reads.unit hi.nonempty hi.letters hend).digits hopen hcount
      simpa [chars, toList_text] using h
    | cons j rest =>
      -- The blank ends the unit: the count is added before the rest is read.
      have hrest : ∀ offset, Reads d' (.gap offset) (chars (j :: rest)) sum := fun offset =>
        ih (by simp) (fun i hi => his i (by simp [hi])) (by simp [d']; omega) .gap
      have hgap : Reads d (.unit i.count none i.name.toList.reverse)
          (' ' :: chars (j :: rest)) sum := by
        intro offset
        have hblank : Text.isBlank ' ' = true := by decide
        have hdigit : digit? ' ' = none := by decide
        simp only [readFrom, Position.step, hdigit, hblank, List.reverse_reverse, hadd]
        exact hrest _ _
      have h := (Reads.unit hi.nonempty hi.letters hgap).digits hopen hcount
      simpa [chars, toList_text] using h

/-! ### Ends -/

theorem chars_cons (i : Counted) (rest : List Counted) :
    ∃ cs, chars (i :: rest) = i.text.toList ++ cs := by
  cases rest with
  | nil => exact ⟨[], by simp [chars]⟩
  | cons j rest => exact ⟨' ' :: chars (j :: rest), by simp [chars]⟩

theorem chars_head (is : List Counted) : ∀ c ∈ (chars is).head?, Text.isBlank c = false := by
  intro c hc
  cases is with
  | nil => simp [chars] at hc
  | cons i rest =>
    obtain ⟨cs, hcs⟩ := chars_cons i rest
    rw [hcs, toList_text, List.append_assoc] at hc
    cases hdigits : Nat.toDigits 10 i.count with
    | nil => exact absurd hdigits Nat.toDigits_ne_nil
    | cons x xs =>
      obtain rfl : x = c := by simpa [hdigits] using hc
      have hunbroken := Decimal.unbroken_toDigits (Nat.one_lt_ofNat : 1 < 10) (by decide) i.count
      exact hunbroken x (by simp [hdigits])

theorem chars_getLast {is : List Counted} (his : ∀ i ∈ is, i.Legible) :
    ∀ c ∈ (chars is).getLast?, Text.isBlank c = false := by
  induction is with
  | nil => simp [chars]
  | cons i rest ih =>
    have hi : i.Legible := his i (by simp)
    have hlast : ∀ c ∈ i.text.toList.getLast?, Text.isBlank c = false := by
      intro c hc
      rw [toList_text, List.getLast?_append_of_ne_nil _ hi.nonempty] at hc
      exact (hi.letters c (List.mem_of_getLast? hc)).2.1
    cases rest with
    | nil => simpa [chars] using hlast
    | cons j rest =>
      have hsplit : chars (i :: j :: rest) = (i.text.toList ++ [' ']) ++ chars (j :: rest) := by
        simp [chars]
      have hne : chars (j :: rest) ≠ [] := by
        obtain ⟨cs, hcs⟩ := chars_cons j rest
        rw [hcs, toList_text]
        simp [Nat.toDigits_ne_nil]
      rw [hsplit, List.getLast?_append_of_ne_nil _ hne]
      exact ih fun i hi => his i (by simp [hi])

/-! ### The text of a span -/

def present (count : ℕ) (unit : TimeUnit) (name : String) : List Counted :=
  if count = 0 then [] else [⟨count, unit, name⟩]

theorem eq_of_mem_present {i : Counted} {count : ℕ} {unit : TimeUnit} {name : String}
    (hi : i ∈ present count unit name) : i = ⟨count, unit, name⟩ := by
  unfold present at hi
  split at hi
  · cases hi
  · simpa using hi

@[simp] theorem total_present (count : ℕ) (unit : TimeUnit) (name : String) :
    total (present count unit name) = count * unit.nanoseconds := by
  unfold present
  split
  · next h => simp [total, h]
  · simp [total, nanoseconds]

@[simp] theorem total_append (is js : List Counted) : total (is ++ js) = total is + total js := by
  simp [total]

theorem map_text_present (count : ℕ) (unit : TimeUnit) (name : String) :
    (present count unit name).map text = abbreviated count name := by
  unfold present abbreviated
  split <;> simp [text]

def plural (count : ℕ) (name : String) : String := name ++ if 1 < count then "s" else ""

theorem abbreviated_plural (count : ℕ) (name : String) :
    abbreviated count (plural count name) = spelled count name := by
  unfold abbreviated spelled
  simp [plural, String.append_assoc]

theorem plural_cases {P : String → Prop} {name : String} (one : P name) (many : P (name ++ "s"))
    (count : ℕ) : P (plural count name) := by
  unfold plural
  split
  · exact many
  · simpa using one

theorem legible_of_coarse {unit : TimeUnit} {name : String} (count : ℕ)
    (hunit : ¬unit.nanoseconds < 10 ^ 9) (hname : TimeUnit.ofName? name = some unit)
    (hletters : ∀ c ∈ name.toList, IsLetter c) (hne : name.toList ≠ []) :
    Legible ⟨count, unit, name⟩ :=
  ⟨hname, hletters, hne, fun h => absurd h hunit⟩

theorem legible_of_fine {unit : TimeUnit} {name : String} {count : ℕ}
    (hcount : count * unit.nanoseconds < 10 ^ 9) (hname : TimeUnit.ofName? name = some unit)
    (hletters : ∀ c ∈ name.toList, IsLetter c) (hne : name.toList ≠ []) :
    Legible ⟨count, unit, name⟩ :=
  ⟨hname, hletters, hne, fun _ => hcount⟩

end Counted

open Counted

def counted (d : Duration) : List Counted :=
  let inYear := d.seconds % 31557600
  let inMonth := inYear % 2630016
  let inDay := inMonth % 86400
  let years := d.seconds / 31557600
  let months := inYear / 2630016
  let days := inMonth / 86400
  present years .year (plural years "year") ++ present months .month (plural months "month") ++
    present days .day (plural days "day") ++ present (inDay / 3600) .hour "h" ++
    present (inDay % 3600 / 60) .minute "m" ++ present (inDay % 60) .second "s" ++
    present (d.subseconds / 10 ^ 6) .millisecond "ms" ++
    present (d.subseconds / 10 ^ 3 % 10 ^ 3) .microsecond "us" ++
    present (d.subseconds % 10 ^ 3) .nanosecond "ns"

theorem map_text_counted (d : Duration) : d.counted.map Counted.text = d.parts := by
  simp only [counted, parts, List.map_append, map_text_present, abbreviated_plural]

theorem total_counted (d : Duration) : total d.counted = d.nanoseconds := by
  simp only [counted, total_append, total_present, TimeUnit.nanoseconds, seconds, subseconds]
  omega

theorem legible_of_mem_counted {d : Duration} {i : Counted} (hi : i ∈ d.counted) : i.Legible := by
  have hsub : d.subseconds < 10 ^ 9 := Nat.mod_lt _ (by decide)
  simp only [counted, List.mem_append, or_assoc] at hi
  rcases hi with hi | hi | hi | hi | hi | hi | hi | hi | hi <;> rw [eq_of_mem_present hi]
  · exact plural_cases (P := fun name => Legible ⟨_, .year, name⟩)
      (legible_of_coarse _ (by decide) rfl (by decide) (by decide))
      (legible_of_coarse _ (by decide) rfl (by decide) (by decide)) _
  · exact plural_cases (P := fun name => Legible ⟨_, .month, name⟩)
      (legible_of_coarse _ (by decide) rfl (by decide) (by decide))
      (legible_of_coarse _ (by decide) rfl (by decide) (by decide)) _
  · exact plural_cases (P := fun name => Legible ⟨_, .day, name⟩)
      (legible_of_coarse _ (by decide) rfl (by decide) (by decide))
      (legible_of_coarse _ (by decide) rfl (by decide) (by decide)) _
  · exact legible_of_coarse _ (by decide) rfl (by decide) (by decide)
  · exact legible_of_coarse _ (by decide) rfl (by decide) (by decide)
  · exact legible_of_coarse _ (by decide) rfl (by decide) (by decide)
  · have hcount : d.subseconds / 10 ^ 6 * 10 ^ 6 < 10 ^ 9 := by omega
    exact legible_of_fine hcount rfl (by decide) (by decide)
  · have hcount : d.subseconds / 10 ^ 3 % 10 ^ 3 * 10 ^ 3 < 10 ^ 9 := by omega
    exact legible_of_fine hcount rfl (by decide) (by decide)
  · have hcount : d.subseconds % 10 ^ 3 * 1 < 10 ^ 9 := by omega
    exact legible_of_fine hcount rfl (by decide) (by decide)

theorem toList_text_of_pos {d : Duration} (h : d.nanoseconds ≠ 0) :
    d.text.toList = chars d.counted := by
  rw [text, if_neg h, ← map_text_counted, toList_intercalate]

theorem counted_ne_nil {d : Duration} (h : d.nanoseconds ≠ 0) : d.counted ≠ [] := by
  intro hnil
  have htotal := d.total_counted
  rw [hnil] at htotal
  exact h htotal.symm

theorem isTrimmed_text (d : Duration) : Text.IsTrimmed d.text := by
  by_cases h : d.nanoseconds = 0
  · rw [text, if_pos h]
    decide
  · have hlegible : ∀ i ∈ d.counted, i.Legible := fun i hi => legible_of_mem_counted hi
    rw [Text.IsTrimmed, toList_text_of_pos h]
    exact ⟨chars_head _, chars_getLast hlegible⟩

/-- A span of time reads back from its text. -/
theorem read_text (d : Duration) : read d.text = .ok d := by
  by_cases h : d.nanoseconds = 0
  · have hzero : d = zero := by
      cases d
      simpa [zero] using h
    subst hzero
    rfl
  · have hreads : Reads zero .start d.text.toList d := by
      rw [toList_text_of_pos h]
      exact reads_chars (counted_ne_nil h) (fun i hi => legible_of_mem_counted hi)
        (by rw [total_counted]; exact (Nat.zero_add _).symm) .start
    -- The text of no span but the empty one is read as a bare zero.
    have hne : d.text ≠ "0" := by
      intro htext
      have hzero : readFrom zero .start 0 "0".toList = .error (.unitNeeded 0) := rfl
      have h := hreads 0
      rw [htext, hzero] at h
      cases h
    rw [read, if_neg hne]
    exact hreads 0

end LayeredConfig.Duration
