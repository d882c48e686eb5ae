import LayeredConfig.Proofs.Yaml.ScalarText
import LayeredConfig.Yaml.Node

namespace LayeredConfig.Yaml

open Cursor

def PossibleKey.framed (k : PossibleKey) : PossibleKey :=
  { k with position := k.position + 1, index := k.index + 4, line := k.line + 1 }

theorem insertIdxIfInBounds_append (token first : Token) (tokens : Array Token) (i : ℕ) :
    (#[first] ++ tokens).insertIdxIfInBounds (i + 1) token =
      #[first] ++ tokens.insertIdxIfInBounds i token := by
  by_cases h : i ≤ tokens.size
  · rw [Array.insertIdxIfInBounds, dif_pos (by simp; omega), Array.insertIdxIfInBounds, dif_pos h]
    apply Array.toList_inj.1
    simp
  · rw [Array.insertIdxIfInBounds, dif_neg (by simp; omega), Array.insertIdxIfInBounds, dif_neg h]

/-! ### The first token -/

/-- A token that is not part of a document's content. -/
def Token.bounds (token : Token) : Bool :=
  isDirective token || token == .documentStart || token == .documentEnd || token == .streamEnd

/-- The tokens, if there are any, start with one of a document's content. -/
def Leads (tokens : Array Token) : Prop :=
  ∀ first, tokens[0]? = some first → first.bounds = false

/-- There are more tokens, and if those before start with content then these do, too. -/
structure Grows (ts ts' : Array Token) : Prop where
  size_le : ts.size ≤ ts'.size
  leads : Leads ts → Leads ts'

theorem Grows.refl (ts : Array Token) : Grows ts ts := ⟨le_rfl, id⟩

theorem Grows.trans {ts ts' ts'' : Array Token} (h : Grows ts ts') (h' : Grows ts' ts'') :
    Grows ts ts'' :=
  ⟨h.size_le.trans h'.size_le, h'.leads ∘ h.leads⟩

theorem Leads.push {ts : Array Token} {token : Token} (h : Leads ts)
    (htoken : token.bounds = true → 0 < ts.size) : Leads (ts.push token) := by
  intro first hfirst
  rcases Nat.eq_zero_or_pos ts.size with hsize | hsize
  · rw [Array.getElem?_push, if_pos hsize.symm] at hfirst
    obtain rfl := Option.some.inj hfirst
    by_contra hbounds
    have := htoken (by simpa using hbounds)
    omega
  · rw [Array.getElem?_push, if_neg (by omega)] at hfirst
    exact h first hfirst

theorem Grows.push (ts : Array Token) {token : Token} (h : token.bounds = false) :
    Grows ts (ts.push token) :=
  ⟨by simp, fun hleads => hleads.push fun hbounds => by simp [h] at hbounds⟩

theorem Grows.insert (ts : Array Token) (i : ℕ) {token : Token} (h : token.bounds = false) :
    Grows ts (ts.insertIdxIfInBounds i token) := by
  by_cases hi : i ≤ ts.size
  · rw [Array.insertIdxIfInBounds, dif_pos hi]
    refine ⟨by simp, fun hleads first hfirst => ?_⟩
    rw [Array.getElem?_insertIdx] at hfirst
    split at hfirst
    · exact hleads first hfirst
    next hzero =>
    rw [if_pos (by omega), if_pos (Nat.zero_le _)] at hfirst
    rwa [← Option.some.inj hfirst]
  · rw [Array.insertIdxIfInBounds, dif_neg hi]
    exact .refl ts

namespace Tokenizer

variable {t t' t₁ u : Tokenizer} {c d : Cursor} {token : Token} {x : Char}

def framed (t : Tokenizer) : Tokenizer :=
  { t with
    cursor := t.cursor.framed
    tokens := #[.documentStart] ++ t.tokens
    possible := t.possible.map (Option.map PossibleKey.framed) }

def Frames (t u : Tokenizer) : Prop := ∃ d, t.cursor.Frames d ∧ u = { t.framed with cursor := d }

@[simp] theorem cursor_framed : t.framed.cursor = t.cursor.framed := rfl

@[simp] theorem inFlow_framed : t.framed.inFlow = t.inFlow := by
  simp [inFlow, framed]

theorem push_framed : t.framed.push token = (t.push token).framed := by
  simp [push, framed]

theorem openBlock_framed (column position : ℕ) :
    t.framed.openBlock column (position + 1) token =
      (t.openBlock column position token).framed := by
  rw [openBlock, openBlock, inFlow_framed]
  have hindent : t.framed.indent = t.indent := rfl
  rw [hindent]
  split
  · simp only [framed, insertIdxIfInBounds_append]
  · rfl

theorem closeBlocks_framed (column : ℤ) (outer : List ℤ) (t : Tokenizer) :
    closeBlocks column t.framed outer = (closeBlocks column t outer).framed := by
  induction outer generalizing t with
  | nil => rfl
  | cons next outer ih =>
    rw [closeBlocks, closeBlocks]
    have hindent : t.framed.indent = t.indent := rfl
    rw [hindent]
    split
    · rw [← ih, push_framed]
      rfl
    · rfl

theorem closeTo_framed (column : ℤ) : t.framed.closeTo column = (t.closeTo column).framed := by
  rw [closeTo, closeTo, inFlow_framed]
  split
  · rfl
  · exact closeBlocks_framed column t.outer t

theorem setKey_framed (key? : Option PossibleKey) :
    t.framed.setKey (key?.map PossibleKey.framed) = (t.setKey key?).map framed := by
  rw [setKey.eq_def, setKey.eq_def]
  cases hpossible : t.possible with
  | nil => simp [framed, hpossible]
  | cons k? rest =>
    have hrequired : (k?.map PossibleKey.framed).any (·.required) = k?.any (·.required) := by
      cases k? <;> rfl
    simp only [framed, hpossible, List.map_cons, hrequired]
    split <;> rfl

theorem dropKey_framed : t.framed.dropKey = t.dropKey.map framed :=
  setKey_framed none

theorem saveKey_framed : t.framed.saveKey = t.saveKey.map framed := by
  have hkey : t.framed.saveKey = if t.keyAllowed then
      t.framed.setKey ((some ⟨t.tokens.size, !t.inFlow && t.indent == t.cursor.column,
        t.cursor.index, t.cursor.line, t.cursor.column⟩).map PossibleKey.framed)
      else some t.framed := by
    rw [saveKey, inFlow_framed]
    have hsize : t.framed.tokens.size = t.tokens.size + 1 := by simp [framed]; omega
    rw [hsize]
    rfl
  rw [hkey, saveKey, setKey_framed]
  split <;> rfl

theorem openHere_framed : t.framed.openHere token = (t.openHere token).map framed := by
  have hsize : t.framed.tokens.size = t.tokens.size + 1 := by simp [framed]; omega
  have hallowed : t.framed.keyAllowed = t.keyAllowed := rfl
  rw [openHere, openHere, inFlow_framed, hsize, hallowed, cursor_framed, column_framed,
    openBlock_framed]
  split
  · rfl
  · split <;> rfl

theorem dropStale_framed : t.framed.dropStale = t.dropStale.map framed := by
  let stale (c : Cursor) (k : PossibleKey) : Bool := k.line < c.line || k.index + 1024 < c.index
  have hstale (k : PossibleKey) : stale t.cursor.framed k.framed = stale t.cursor k := by
    simp [stale, Cursor.framed, PossibleKey.framed]
    grind
  have hany : (t.possible.map (Option.map PossibleKey.framed)).any (fun k? =>
      k?.any fun k => stale t.cursor.framed k && k.required) =
        t.possible.any fun k? => k?.any fun k => stale t.cursor k && k.required := by
    rw [List.any_map]
    refine List.any_congr rfl fun k? => ?_
    cases k? with
    | none => rfl
    | some k => simp [hstale]; rfl
  have hkept : (t.possible.map (Option.map PossibleKey.framed)).map (fun k? =>
      k?.filter fun k => !stale t.cursor.framed k) =
        (t.possible.map fun k? => k?.filter fun k => !stale t.cursor k).map
          (Option.map PossibleKey.framed) := by
    rw [List.map_map, List.map_map]
    refine List.map_congr_left fun k? _ => ?_
    cases k? with
    | none => rfl
    | some k => cases h : stale t.cursor k <;> simp [Option.filter, hstale, h]
  have hdrop (t : Tokenizer) : t.dropStale =
      if t.possible.any fun k? => k?.any fun k => stale t.cursor k && k.required then none
      else some { t with possible := t.possible.map fun k? => k?.filter (!stale t.cursor ·) } :=
    rfl
  rw [hdrop, hdrop]
  simp only [framed, hany, hkept]
  split <;> rfl

/-! ### Keys of lines before -/

def KeysUpTo (t : Tokenizer) (line : ℕ) : Prop := ∀ k, some k ∈ t.possible → k.line ≤ line

theorem setKey_eq_some {key? : Option PossibleKey} (h : t.setKey key? = some t') :
    ∃ possible, t' = { t with possible } ∧ ∀ k? ∈ possible, k? = key? ∨ k? ∈ t.possible := by
  rw [setKey.eq_def] at h
  split at h
  · next k? rest hpossible =>
    split at h
    · cases h
    · cases h
      refine ⟨key? :: rest, rfl, ?_⟩
      rw [hpossible]
      simp only [List.mem_cons]
      grind
  · cases h
    exact ⟨t.possible, rfl, fun k? hk => .inr hk⟩

/-- The keys that are possible change, and maybe the collections, but not the place. -/
structure Marks (t t' : Tokenizer) : Prop where
  cursor_eq : t'.cursor = t.cursor
  keys : t.KeysUpTo t.cursor.line → t'.KeysUpTo t.cursor.line
  grows : Grows t.tokens t'.tokens

theorem Marks.refl (t : Tokenizer) : t.Marks t := ⟨rfl, id, .refl _⟩

theorem Marks.trans (h : t.Marks t') (h' : t'.Marks t₁) : t.Marks t₁ := by
  refine ⟨h'.cursor_eq.trans h.cursor_eq, fun hkeys => ?_, h.grows.trans h'.grows⟩
  have hlast := h'.keys
  rw [h.cursor_eq] at hlast
  exact hlast (h.keys hkeys)

theorem closeBlocks_marks (column : ℤ) (outer : List ℤ) (t : Tokenizer) :
    t.Marks (closeBlocks column t outer) := by
  induction outer generalizing t with
  | nil => exact .refl t
  | cons next outer ih =>
    rw [closeBlocks]
    split
    · obtain ⟨hcursor, hkeys, hgrows⟩ := ih { t.push .blockEnd with indent := next, outer }
      exact ⟨hcursor, hkeys, (Grows.push t.tokens rfl).trans hgrows⟩
    · exact .refl t

theorem closeTo_marks (t : Tokenizer) (column : ℤ) : t.Marks (t.closeTo column) := by
  rw [closeTo]
  split
  · exact .refl t
  · exact closeBlocks_marks column t.outer t

theorem setKey_marks {key? : Option PossibleKey} (h : t.setKey key? = some t')
    (hkey : ∀ k, key? = some k → k.line ≤ t.cursor.line) : t.Marks t' := by
  obtain ⟨possible, rfl, hpossible⟩ := setKey_eq_some h
  refine ⟨rfl, fun hkeys k hk => ?_, .refl _⟩
  rcases hpossible _ hk with hk | hk
  · exact hkey k hk.symm
  · exact hkeys k hk

theorem dropKey_marks (h : t.dropKey = some t') : t.Marks t' :=
  setKey_marks h nofun

theorem saveKey_marks (h : t.saveKey = some t') : t.Marks t' := by
  rw [saveKey] at h
  split at h
  · refine setKey_marks h fun k hk => ?_
    rw [← Option.some.inj hk]
  · cases h
    exact .refl t

theorem dropStale_marks (h : t.dropStale = some t') : t.Marks t' := by
  rw [dropStale] at h
  dsimp only at h
  split at h
  · cases h
  · cases h
    refine ⟨rfl, fun hkeys k hk => hkeys k ?_, .refl _⟩
    obtain ⟨k?, hmem, hfilter⟩ := List.mem_map.1 hk
    obtain ⟨rfl, -⟩ := Option.filter_eq_some_iff.1 hfilter
    exact hmem

theorem openBlock_marks (t : Tokenizer) (column position : ℕ) (htoken : token.bounds = false) :
    t.Marks (t.openBlock column position token) := by
  rw [openBlock]
  split
  · exact ⟨rfl, id, .insert _ _ htoken⟩
  · exact .refl t

theorem openHere_marks (htoken : token.bounds = false) (h : t.openHere token = some t') :
    t.Marks t' := by
  rw [openHere] at h
  split at h
  · cases h
    exact .refl t
  · split at h
    · cases h
      exact openBlock_marks t _ _ htoken
    · cases h

/-! ### One token -/

def atBound (t : Tokenizer) : Bool :=
  (t.cursor.column == 0 && t.cursor.startsWith '%') || t.cursor.atDocumentBound

/-- A token is taken here and at the same place in the framed text. -/
structure Steps (t t' u : Tokenizer) : Prop where
  frames : t'.Frames u
  before : t.cursor.Before t'.cursor
  keys : t.KeysUpTo t.cursor.line → t'.KeysUpTo t.cursor.line
  leads : Leads t.tokens → (t.atBound = true → 0 < t.tokens.size) →
    Leads t'.tokens ∧ 0 < t'.tokens.size

theorem Marks.steps {keyAllowed : Bool} (h : t.Marks t₁)
    (htoken : token.bounds = true → t.atBound = true) (hframes : c.Frames d)
    (hbefore : t.cursor.Before c) :
    t.Steps { t₁.push token with cursor := c, keyAllowed }
      { t₁.framed.push token with cursor := d, keyAllowed } := by
  refine ⟨⟨d, hframes, ?_⟩, hbefore, h.keys, fun hleads hsize => ⟨?_, by simp [push]⟩⟩
  · rw [push_framed]
    rfl
  · exact (h.grows.leads hleads).push fun hbounds =>
      (hsize (htoken hbounds)).trans_le h.grows.size_le

theorem not_bounds {p : Prop} (h : token.bounds = false) : token.bounds = true → p := by
  rw [h]
  exact nofun

/-- A sign that is a token by itself. -/
theorem Marks.steps_take {keyAllowed : Bool} (h : t.Marks t₁) (htoken : token.bounds = false)
    (hopen : t.cursor.Open) (hbreak : t.cursor.atBreak = false) :
    t.Steps (t₁.take token keyAllowed) (t₁.framed.take token keyAllowed) := by
  have hskip := hopen.alongSkip hbreak
  rw [take, take, cursor_framed, h.cursor_eq, hopen.skip_framed]
  exact h.steps (not_bounds htoken) hskip.isOpen.frames hskip.before

/-- Possible keys are dropped, or an empty entry is put in front of them. -/
theorem Steps.setPossible (possible : List (Option PossibleKey)) (h : t.Steps t' u)
    (hpossible : ∀ k? ∈ possible, k? = none ∨ k? ∈ t'.possible) :
    t.Steps { t' with possible }
      { u with possible := possible.map (Option.map PossibleKey.framed) } := by
  obtain ⟨⟨d, hd, rfl⟩, hbefore, hkeys, hleads⟩ := h
  refine ⟨⟨d, hd, rfl⟩, hbefore, fun hk k hmem => ?_, hleads⟩
  exact hkeys hk k ((hpossible _ hmem).resolve_left nofun)

theorem open_skipMarker (h : c.Open) (hx : isBreakChar x = false) (hmarker : c.atMarker x = true) :
    c.framed.skipMany 3 = (c.skipMany 3).framed ∧ c.Along (c.skipMany 3) := by
  simp only [atMarker, Bool.and_eq_true, beq_iff_eq] at hmarker
  obtain ⟨hlt, hopen⟩ := h.skipMany (n := 3) (by simp [hmarker.1.2, hx])
  exact ⟨skipMany_framed hlt.le, hopen, rfl⟩

theorem takeValue_of_key {k : PossibleKey} {rest : List (Option PossibleKey)}
    (h : t.possible = some k :: rest) : t.takeValue = some ((openBlock
      { t with
        possible := none :: rest
        tokens := t.tokens.insertIdxIfInBounds k.position .key }
      k.column k.position .blockMappingStart).take .value false) := by
  rw [takeValue, h]

theorem takeValue_of_none (h : ¬∃ k rest, t.possible = some k :: rest) :
    t.takeValue = (t.openHere .blockMappingStart).map (·.take .value !t.inFlow) := by
  rw [takeValue.eq_def]
  split
  · next k rest hkey => exact absurd ⟨k, rest, hkey⟩ h
  · cases t.openHere .blockMappingStart <;> rfl

section

variable (hopen : t.cursor.Open)

include hopen

theorem takeMarker_framed (hx : isBreakChar x = false) (hmarker : t.cursor.atMarker x = true)
    (hbound : t.atBound = true) (ht : t.takeMarker token = some t') :
    ∃ u, t.framed.takeMarker token = some u ∧ t.Steps t' u := by
  obtain ⟨t₁, hdrop, ht⟩ := Option.bind_eq_some_iff.1 ht
  cases ht
  have hmarks := (closeTo_marks t (-1)).trans (dropKey_marks hdrop)
  obtain ⟨hskip, halong⟩ := open_skipMarker hopen hx hmarker
  rw [hmarks.cursor_eq]
  refine ⟨_, ?_, hmarks.steps (fun _ => hbound) halong.isOpen.frames halong.before⟩
  rw [takeMarker, closeTo_framed, dropKey_framed, hdrop, Option.map_some, Option.bind_eq_bind,
    Option.bind_some, cursor_framed, hmarks.cursor_eq, hskip]
  rfl

variable (hbreak : t.cursor.atBreak = false)

include hbreak

theorem takeDirective_framed (hbound : t.atBound = true) (ht : t.takeDirective = some t') :
    ∃ u, t.framed.takeDirective = some u ∧ t.Steps t' u := by
  obtain ⟨t₁, hdrop, ht⟩ := Option.bind_eq_some_iff.1 ht
  obtain ⟨⟨token, c⟩, hread, ht⟩ := Option.bind_eq_some_iff.1 ht
  cases ht
  have hmarks := (closeTo_marks t (-1)).trans (dropKey_marks hdrop)
  rw [hmarks.cursor_eq] at hread
  obtain ⟨hread', hbefore⟩ := directive_framed hopen hbreak hread
  refine ⟨_, ?_, hmarks.steps (fun _ => hbound)
    (frames_framed (hbefore.ended.imp_right And.left)) hbefore⟩
  rw [takeDirective, closeTo_framed, dropKey_framed, hdrop, Option.map_some, Option.bind_eq_bind,
    Option.bind_some, cursor_framed, hmarks.cursor_eq, hread']
  rfl

theorem openFlow_framed (htoken : token.bounds = false) (ht : t.openFlow token = some t') :
    ∃ u, t.framed.openFlow token = some u ∧ t.Steps t' u := by
  obtain ⟨t₁, hsave, ht⟩ := Option.bind_eq_some_iff.1 ht
  cases ht
  refine ⟨_, ?_, Steps.setPossible (none :: t₁.possible)
    ((saveKey_marks hsave).steps_take htoken hopen hbreak) fun k? hk => List.mem_cons.1 hk⟩
  rw [openFlow, saveKey_framed, hsave]
  rfl

theorem closeFlow_framed (htoken : token.bounds = false) (ht : t.closeFlow token = some t') :
    ∃ u, t.framed.closeFlow token = some u ∧ t.Steps t' u := by
  obtain ⟨t₁, hdrop, ht⟩ := Option.bind_eq_some_iff.1 ht
  cases ht
  refine ⟨_, ?_, Steps.setPossible (if t₁.inFlow then t₁.possible.drop 1 else t₁.possible)
    ((dropKey_marks hdrop).steps_take htoken hopen hbreak) fun k? hk => ?_⟩
  · rw [closeFlow, dropKey_framed, hdrop, Option.map_some, Option.bind_eq_bind, Option.bind_some,
      inFlow_framed]
    have hpossible : t₁.framed.possible = t₁.possible.map (Option.map PossibleKey.framed) := rfl
    rw [hpossible, ← List.map_drop, ← apply_ite]
    rfl
  · refine .inr ?_
    split at hk
    · exact List.mem_of_mem_drop hk
    · exact hk

theorem takeFlowEntry_framed (ht : t.takeFlowEntry = some t') :
    ∃ u, t.framed.takeFlowEntry = some u ∧ t.Steps t' u := by
  obtain ⟨t₁, hdrop, ht⟩ := Option.bind_eq_some_iff.1 ht
  cases ht
  refine ⟨_, ?_, (dropKey_marks hdrop).steps_take rfl hopen hbreak⟩
  rw [takeFlowEntry, dropKey_framed, hdrop]
  rfl

theorem takeBlockEntry_framed (ht : t.takeBlockEntry = some t') :
    ∃ u, t.framed.takeBlockEntry = some u ∧ t.Steps t' u := by
  obtain ⟨t₁, hhere, ht⟩ := Option.bind_eq_some_iff.1 ht
  obtain ⟨t₂, hdrop, ht⟩ := Option.bind_eq_some_iff.1 ht
  cases ht
  refine ⟨_, ?_, ((openHere_marks rfl hhere).trans (dropKey_marks hdrop)).steps_take rfl hopen
    hbreak⟩
  rw [takeBlockEntry, openHere_framed, hhere, Option.map_some, Option.bind_eq_bind,
    Option.bind_some, dropKey_framed, hdrop]
  rfl

theorem takeKey_framed (ht : t.takeKey = some t') :
    ∃ u, t.framed.takeKey = some u ∧ t.Steps t' u := by
  obtain ⟨t₁, hhere, ht⟩ := Option.bind_eq_some_iff.1 ht
  obtain ⟨t₂, hdrop, ht⟩ := Option.bind_eq_some_iff.1 ht
  cases ht
  refine ⟨_, ?_, ((openHere_marks rfl hhere).trans (dropKey_marks hdrop)).steps_take rfl hopen
    hbreak⟩
  rw [takeKey, openHere_framed, hhere, Option.map_some, Option.bind_eq_bind, Option.bind_some,
    dropKey_framed, hdrop, inFlow_framed]
  rfl

theorem takeValue_framed (ht : t.takeValue = some t') :
    ∃ u, t.framed.takeValue = some u ∧ t.Steps t' u := by
  have hpossible : t.framed.possible = t.possible.map (Option.map PossibleKey.framed) := rfl
  by_cases hkey : ∃ k rest, t.possible = some k :: rest
  · obtain ⟨k, rest, hkey⟩ := hkey
    rw [takeValue_of_key hkey] at ht
    rw [hkey] at hpossible
    cases ht
    let t₁ : Tokenizer :=
      { t with
        possible := none :: rest
        tokens := t.tokens.insertIdxIfInBounds k.position .key }
    have hmarks : t.Marks t₁ := by
      refine ⟨rfl, fun hkeys k hk => hkeys k ?_, .insert _ _ rfl⟩
      rw [hkey]
      exact List.mem_cons_of_mem _ ((List.mem_cons.1 hk).resolve_left nofun)
    refine ⟨_, ?_, (hmarks.trans (openBlock_marks t₁ k.column k.position rfl)).steps_take rfl
      hopen hbreak⟩
    rw [takeValue_of_key hpossible, ← openBlock_framed]
    simp only [t₁, framed, ← insertIdxIfInBounds_append]
    rfl
  · have hkey' : ¬∃ k rest, t.framed.possible = some k :: rest := by
      rw [hpossible]
      rintro ⟨k, rest, h⟩
      obtain ⟨k?, rest', hrest, hk, -⟩ := List.map_eq_cons_iff.1 h
      obtain ⟨k', rfl, -⟩ := Option.map_eq_some_iff.1 hk
      exact hkey ⟨k', rest', hrest⟩
    rw [takeValue_of_none hkey] at ht
    obtain ⟨t₁, hhere, rfl⟩ := Option.map_eq_some_iff.1 ht
    refine ⟨_, ?_, (openHere_marks rfl hhere).steps_take rfl hopen hbreak⟩
    rw [takeValue_of_none hkey', openHere_framed, hhere, Option.map_some, Option.map_some,
      inFlow_framed]

theorem takeAnchor_framed {token : String → Token} (htoken : ∀ name, (token name).bounds = false)
    (ht : t.takeAnchor token = some t') :
    ∃ u, t.framed.takeAnchor token = some u ∧ t.Steps t' u := by
  obtain ⟨t₁, hsave, ht⟩ := Option.bind_eq_some_iff.1 ht
  obtain ⟨⟨name, c⟩, hread, ht⟩ := Option.bind_eq_some_iff.1 ht
  cases ht
  have hmarks := saveKey_marks hsave
  rw [hmarks.cursor_eq] at hread
  obtain ⟨hread', halong⟩ := anchorName_framed hopen hbreak hread
  refine ⟨_, ?_, hmarks.steps (not_bounds (htoken name)) halong.isOpen.frames halong.before⟩
  rw [takeAnchor, saveKey_framed, hsave, Option.map_some, Option.bind_eq_bind, Option.bind_some,
    cursor_framed, hmarks.cursor_eq, hread']
  rfl

theorem takeBlockScalar_framed {literal : Bool} (ht : t.takeBlockScalar literal = some t')
    (hkept : ¬(t.cursor.keepsBreaks = true ∧ t'.cursor.rest = [])) :
    ∃ u, t.framed.takeBlockScalar literal = some u ∧ t.Steps t' u := by
  obtain ⟨t₁, hdrop, ht⟩ := Option.bind_eq_some_iff.1 ht
  obtain ⟨⟨text, c⟩, hread, ht⟩ := Option.bind_eq_some_iff.1 ht
  cases ht
  have hmarks := dropKey_marks hdrop
  rw [hmarks.cursor_eq] at hread
  obtain ⟨d, hread', hframes, hbefore⟩ := blockScalar_framed hopen hbreak hread hkept
  refine ⟨_, ?_, hmarks.steps nofun hframes hbefore⟩
  have hindent : t₁.framed.indent = t₁.indent := rfl
  rw [takeBlockScalar, dropKey_framed, hdrop, Option.map_some, Option.bind_eq_bind,
    Option.bind_some, cursor_framed, hmarks.cursor_eq, hindent, hread']
  rfl

omit hbreak

theorem takePlain_framed (ht : t.takePlain = some t') :
    ∃ u, t.framed.takePlain = some u ∧ t.Steps t' u := by
  obtain ⟨t₁, hsave, ht⟩ := Option.bind_eq_some_iff.1 ht
  obtain ⟨⟨text, broken, c⟩, hread, ht⟩ := Option.bind_eq_some_iff.1 ht
  cases ht
  have hmarks := saveKey_marks hsave
  rw [hmarks.cursor_eq] at hread
  obtain ⟨d, hread', hframes, hbefore⟩ := plainScalar_framed hopen hread
  refine ⟨_, ?_, hmarks.steps nofun hframes hbefore⟩
  have hindent : t₁.framed.indent = t₁.indent := rfl
  rw [takePlain, saveKey_framed, hsave, Option.map_some, Option.bind_eq_bind, Option.bind_some,
    cursor_framed, hmarks.cursor_eq, inFlow_framed, hindent, hread']
  rfl

theorem takeTag_framed (hstart : t.cursor.startsWith '!' = true) (ht : t.takeTag = some t') :
    ∃ u, t.framed.takeTag = some u ∧ t.Steps t' u := by
  obtain ⟨t₁, hsave, ht⟩ := Option.bind_eq_some_iff.1 ht
  obtain ⟨⟨tag, c⟩, hread, ht⟩ := Option.bind_eq_some_iff.1 ht
  cases ht
  have hmarks := saveKey_marks hsave
  rw [hmarks.cursor_eq] at hread
  obtain ⟨hread', halong⟩ := tagToken_framed hopen hstart hread
  refine ⟨_, ?_, hmarks.steps nofun halong.isOpen.frames halong.before⟩
  rw [takeTag, saveKey_framed, hsave, Option.map_some, Option.bind_eq_bind, Option.bind_some,
    cursor_framed, hmarks.cursor_eq, inFlow_framed, hread']
  rfl

theorem takeQuoted_framed {quote : Char} (hquote : isBreakChar quote = false)
    (hstart : t.cursor.startsWith quote = true) (ht : t.takeQuoted quote = some t') :
    ∃ u, t.framed.takeQuoted quote = some u ∧ t.Steps t' u := by
  obtain ⟨t₁, hsave, ht⟩ := Option.bind_eq_some_iff.1 ht
  obtain ⟨⟨text, c⟩, hread, ht⟩ := Option.bind_eq_some_iff.1 ht
  cases ht
  have hmarks := saveKey_marks hsave
  rw [hmarks.cursor_eq] at hread
  obtain ⟨hread', hbefore⟩ := quotedScalar_framed hquote hopen hstart hread
  refine ⟨_, ?_, hmarks.steps nofun (frames_framed (hbefore.ended.imp_right And.left)) hbefore⟩
  rw [takeQuoted, saveKey_framed, hsave, Option.map_some, Option.bind_eq_bind, Option.bind_some,
    cursor_framed, hmarks.cursor_eq, hread']
  rfl

end

def atKept (t : Tokenizer) : Bool :=
  !t.inFlow && (t.cursor.startsWith '|' || t.cursor.startsWith '>') && t.cursor.keepsBreaks

def Begins (t : Tokenizer) (x : Char) : Kind → Prop
  | .directive => t.cursor.column = 0 ∧ x = '%'
  | .documentStart => t.cursor.atMarker '-' = true
  | .documentEnd => t.cursor.atMarker '.' = true
  | .tag => x = '!'
  | .quoted quote => x = quote ∧ isBreakChar quote = false
  | .block _ => (x = '|' ∨ x = '>') ∧ t.inFlow = false
  | _ => True

theorem begins_of_kind? {kind : Kind} (h : t.kind? x = some kind) : t.Begins x kind := by
  rw [kind?.eq_def] at h
  dsimp only at h
  split at h
  next hdirective => cases h; exact hdirective
  split at h
  next hmarker => cases h; exact hmarker
  split at h
  next hmarker => cases h; exact hmarker
  split at h
  any_goals (cases h; trivial)
  split at h
  next => cases h; trivial
  split at h
  next => cases h; trivial
  split at h
  next => cases h; trivial
  split at h
  next hblock => cases h; exact ⟨.inl hblock.1, by simpa using hblock.2⟩
  split at h
  next hblock => cases h; exact ⟨.inr hblock.1, by simpa using hblock.2⟩
  split at h
  next => cases h
  split at h
  next => cases h; trivial
  next => cases h

theorem kind?_framed : t.framed.kind? x = t.kind? x := by
  rw [kind?.eq_def, kind?.eq_def, cursor_framed]
  dsimp only
  rw [column_framed, atMarker_framed (by decide), atMarker_framed (by decide), isGap_peek_framed,
    inFlow_framed]

theorem takeKind_framed {kind : Kind} (hopen : t.cursor.Open) (hhead : t.cursor.head = some x)
    (hx : isBreakChar x = false) (hbegins : t.Begins x kind) (ht : t.takeKind kind = some t')
    (hkept : ¬(t.atKept = true ∧ t'.cursor.rest = [])) :
    ∃ u, t.framed.takeKind kind = some u ∧ t.Steps t' u := by
  have hbreak : t.cursor.atBreak = false := by simp [atBreak, hhead, hx]
  have hstart : t.cursor.startsWith x = true := by simp [startsWith, hhead]
  cases kind with
  | directive =>
    obtain ⟨hcolumn, rfl⟩ := hbegins
    exact takeDirective_framed hopen hbreak (by simp [atBound, hcolumn, hstart]) ht
  | documentStart =>
    exact takeMarker_framed hopen (by decide) hbegins
      (by simp [atBound, atDocumentBound, show t.cursor.atMarker '-' = true from hbegins]) ht
  | documentEnd =>
    exact takeMarker_framed hopen (by decide) hbegins
      (by simp [atBound, atDocumentBound, show t.cursor.atMarker '.' = true from hbegins]) ht
  | sequenceStart => exact openFlow_framed hopen hbreak rfl ht
  | sequenceEnd => exact closeFlow_framed hopen hbreak rfl ht
  | mappingStart => exact openFlow_framed hopen hbreak rfl ht
  | mappingEnd => exact closeFlow_framed hopen hbreak rfl ht
  | flowEntry => exact takeFlowEntry_framed hopen hbreak ht
  | reference => exact takeAnchor_framed hopen hbreak (fun _ => rfl) ht
  | anchor => exact takeAnchor_framed hopen hbreak (fun _ => rfl) ht
  | tag =>
    obtain rfl : x = '!' := hbegins
    exact takeTag_framed hopen hstart ht
  | quoted quote =>
    obtain ⟨rfl, hquote⟩ := hbegins
    exact takeQuoted_framed hopen hquote hstart ht
  | blockEntry => exact takeBlockEntry_framed hopen hbreak ht
  | key => exact takeKey_framed hopen hbreak ht
  | value => exact takeValue_framed hopen hbreak ht
  | block literal =>
    obtain ⟨hsign, hflow⟩ := hbegins
    refine takeBlockScalar_framed hopen hbreak ht fun h => hkept ⟨?_, h.2⟩
    have hstart' : t.cursor.startsWith '|' = true ∨ t.cursor.startsWith '>' = true := by
      obtain rfl | rfl := hsign
      · exact .inl hstart
      · exact .inr hstart
    simpa [atKept, hflow, h.1] using hstart'
  | plain => exact takePlain_framed hopen ht

theorem takeToken_framed (hopen : t.cursor.Open) (hhead : t.cursor.head = some x)
    (hx : isBreakChar x = false) (ht : t.takeToken x = some t')
    (hkept : ¬(t.atKept = true ∧ t'.cursor.rest = [])) :
    ∃ u, t.framed.takeToken x = some u ∧ t.Steps t' u := by
  obtain ⟨kind, hkind, ht⟩ := Option.bind_eq_some_iff.1 ht
  rw [takeToken, kind?_framed, hkind]
  exact takeKind_framed hopen hhead hx (begins_of_kind? hkind) ht hkept

end Tokenizer

end LayeredConfig.Yaml
