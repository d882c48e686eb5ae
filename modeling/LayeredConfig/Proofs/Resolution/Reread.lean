import LayeredConfig.Proofs.Resolution.Precedence
import LayeredConfig.Proofs.Schema.RoundTrip
import LayeredConfig.Proofs.Text.ByteOrder
import LayeredConfig.Proofs.Yaml.Writer

namespace LayeredConfig

open Schema

/-! ### What is shown -/

def dumpedText (shape : Shape) (value : Value) : String :=
  "---\n" ++ dumpText shape value ++ "\n"

def dumpedSink (shape : Shape) (value : Value) : Sink :=
  ⟨(dumpedText shape value).toUTF8.data.toList, none⟩

theorem writeAll_dumpPieces (shape : Shape) (value : Value) :
    Sink.unbounded.writeAll (dumpPieces shape value) = (true, dumpedSink shape value) := by
  simp [dumpPieces, Sink.writeAll, Sink.write, Sink.writeBytes, Sink.unbounded, dumpedSink,
    dumpedText]

theorem bytes_dumpedSink (shape : Shape) (value : Value) :
    (dumpedSink shape value).bytes = (dumpedText shape value).toUTF8 := by
  simp [Sink.bytes, dumpedSink]

theorem encode_mapping {fields : Fields}
    (hdistinct : (fields.flatten.map Field.key).Nodup) {value : Value}
    (hvalue : (Shape.record fields).HoldsWith Leaf.HoldsTextual value) :
    ∃ entries, (Shape.record fields).encode value = .mapping entries ∧
      ∀ e ∈ entries, ∃ s, e.1 = .string s := by
  cases hvalue with
  | record hvalues =>
    refine ⟨_, encode_record hdistinct hvalues.length_eq, fun e he => ?_⟩
    obtain ⟨i, hi, rfl⟩ := List.getElem_of_mem he
    exact ⟨_, by rw [List.getElem_zipWith, Field.entry]⟩

/-- A dump is read as the document that it was written from. -/
theorem read?_dumpedText {shape : Shape} {value : Value} {entries : List (Document × Document)}
    (hencode : shape.encode value = .mapping entries)
    (hkeys : ∀ e ∈ entries, ∃ s, e.1 = .string s)
    (hread : Yaml.read? (dumpText shape value) = some (shape.encode value))
    (hkept : Yaml.endsKept (dumpText shape value).toList = false) :
    Yaml.read? (dumpedText shape value) = some (.mapping entries) := by
  rw [dumpText, hencode] at hread hkept
  rw [dumpedText, dumpText, hencode]
  exact Yaml.read?_framed_write hkeys hkept hread

/-! ### Records of one leaf -/

section

variable {ok : Leaf → Scalar → Prop} {kind : Leaf} {content : Scalar}

theorem startsWith_single (name : String) (h : ok kind content) :
    (Shape.record (.plain name (.leaf kind) (.scalar content) .nil)).StartsWith ok := by
  intro fields hfields
  obtain rfl : fields = _ := by simpa [Fields.flatten] using hfields
  simpa [Fields.flatten] using .scalar h

theorem reversible_single (name : String) (h : kind.Holds content) :
    (Shape.record (.plain name (.leaf kind) (.scalar content) .nil)).Reversible := by
  refine ⟨?_, by simp [Fields.flatten], startsWith_single name h, ?_⟩
  · intro fields hfields
    obtain rfl : fields = _ := by simpa [Fields.flatten] using hfields
    simp [Fields.flatten]
  · intro fields hfields
    obtain rfl : fields = _ := by simpa [Fields.flatten] using hfields
    simpa [Fields.flatten] using .scalar

end

namespace Request

theorem resolveWith_dump {request : Request} {reach : Source.Reach} {shape : Shape}
    {command : String} {vs : List Variable} {start value : Value} (hdump : request.dump = true)
    (hmerge : merge reach shape (.ofText request.source)
      (Override.ofVariables ⟨overrideProgram, command⟩ vs) start = .done value) :
    request.resolveWith reach shape command vs start .unbounded =
      ⟨value, none, dumpedSink shape value⟩ := by
  rw [resolveWith, hmerge]
  dsimp only [Outcome.done]
  rw [if_pos hdump, writeAll_dumpPieces]

/-- Resolving again from what a resolution showed, without variables, gives the same configuration
and shows the same. -/
theorem resolveWith_dumped {request : Request} {reach reach' : Source.Reach} {fields : Fields}
    {command command' path name : String} {vs : List Variable} {r : Resolution}
    (hshape : (Shape.record fields).Reversible)
    (hstarts : (Shape.record fields).StartsWith Leaf.HoldsTextual)
    (hmemory : ∀ d, (Source.ofText request.source).load reach = .ok d → d.InMemory)
    (hvs : ∀ v ∈ vs, v.content.length < 2 ^ 63) (hdump : request.dump = true)
    (hr : request.resolveWith reach (.record fields) command vs (Shape.record fields).start
      .unbounded = r) (hok : r.error = none)
    (hread : Yaml.read? (dumpText (.record fields) r.value) =
      some ((Shape.record fields).encode r.value))
    (hkept : Yaml.endsKept (dumpText (.record fields) r.value).toList = false)
    (hpath : Source.ofText (some path) = .file name)
    (hyaml : Files.extension? name = some "yaml")
    (hfile : reach'.readFile name = .ok r.sink.bytes)
    (hparse : reach'.parse = Source.Language.parse) :
    r.sink.bytes = ("---\n" ++ dumpText (.record fields) r.value ++ "\n").toUTF8 ∧
      (⟨some path, true⟩ : Request).resolveWith reach' (.record fields) command' []
        (Shape.record fields).start .unbounded = r := by
  subst hr
  have hmerge := merge_of_resolveWith hok
  have hshown := resolveWith_dump hdump hmerge
  generalize (request.resolveWith reach (.record fields) command vs (Shape.record fields).start
    .unbounded).value = c at *
  obtain ⟨d, hload⟩ : ∃ d, (Source.ofText request.source).load reach = .ok d := by
    cases hload : (Source.ofText request.source).load reach with
    | error e =>
      rw [merge, hload] at hmerge
      cases hmerge
    | ok d => exact ⟨d, rfl⟩
  obtain ⟨w, hw, hc⟩ := merge_eq_done hload hmerge
  -- The configuration is what a document and overrides leave, so its own document gives it back.
  let edits : List Edit := [.decode d "", .override ⟨overrideProgram, command⟩ vs]
  have hedits : ∀ e ∈ edits, e.InMemory := by
    simp only [edits, List.forall_mem_cons]
    exact ⟨hmemory d hload, hvs, by simp⟩
  have hleft : edits.foldl (Edit.apply (.record fields)) (Shape.record fields).start = c := by
    simp only [edits, List.foldl_cons, List.foldl_nil, Edit.apply]
    rw [hw, Outcome.value_done, hc, Outcome.value_done]
  obtain ⟨hholds, hgives⟩ := hshape.givesBack_edits hstarts
    (hstarts.start_holds Leaf.invariant_holdsTextual) hedits
  rw [hleft] at hholds hgives
  obtain ⟨entries, hencode, hkeys⟩ := encode_mapping (hshape.distinct fields .refl) hholds
  have hlanguage : Source.Language.ofPath name = .yaml := by
    rw [Source.Language.ofPath, hyaml]
    decide
  rw [hshown, bytes_dumpedSink] at hfile
  have hshownRead := Source.Language.parse_yaml (read?_dumpedText hencode hkeys hread hkept)
  have hagain := Source.load_file hlanguage hfile (hparse ▸ hshownRead)
  have hmerge' : merge reach' (.record fields) (.ofText (some path))
      (Override.ofVariables ⟨overrideProgram, command'⟩ []) (Shape.record fields).start =
        .done c := by
    rw [hpath, merge, hagain, ← hencode]
    dsimp only
    rw [hgives hshape.start_unfilled]
    rfl
  rw [hshown]
  exact ⟨bytes_dumpedSink _ c, resolveWith_dump rfl hmerge'⟩

/-- What is resolved from a file with some text, if its document can be decoded. -/
theorem resolveWith_file {shape : Shape} {start value : Value} {text : String}
    {entries : List (Document × Document)} (command : String)
    (hread : Yaml.read? text = some (.mapping entries))
    (hdecode : shape.decode start (.mapping entries) "" = .done value) :
    (⟨some "dump.yaml", true⟩ : Request).resolveWith
      ⟨fun _ => .ok text.toUTF8, fun _ => none, Source.Language.parse⟩ shape command [] start
        .unbounded = ⟨value, none, dumpedSink shape value⟩ := by
  have hsource : Source.ofText (some "dump.yaml") = .file "dump.yaml" := by decide
  refine resolveWith_dump rfl ?_
  rw [hsource, merge, Source.load_file (by decide) rfl (Source.Language.parse_yaml hread)]
  dsimp only
  rw [hdecode]
  rfl

/-- A text that ends in a block of one line. -/
theorem resolveWith_dumped_block :
    let shape : Shape := .record (.plain "s" (.leaf .string) (.scalar (.text "hello")) .nil)
    let shown := "---\ns: |\n  a\n\n"
    let reach : Source.Reach :=
      ⟨fun _ => .ok shown.toUTF8, fun _ => none, Source.Language.parse⟩
    let r := (⟨none, true⟩ : Request).resolveWith reach shape "serve" [⟨"STRATUM_SERVE_S", "a\n"⟩]
      shape.start .unbounded
    r.error = none ∧ r.value = .record [.scalar (.text "a\n")] ∧ r.sink.bytes = shown.toUTF8 ∧
      (⟨some "dump.yaml", true⟩ : Request).resolveWith reach shape "hello" [] shape.start
        .unbounded = r := by
  intro shape shown reach r
  have hshape : shape.Reversible := reversible_single "s" trivial
  have hstarts : shape.StartsWith Leaf.HoldsTextual := startsWith_single "s" ⟨trivial, trivial⟩
  have hmerge : merge reach shape (.ofText none)
      (Override.ofVariables ⟨overrideProgram, "serve"⟩ [⟨"STRATUM_SERVE_S", "a\n"⟩])
      shape.start = .done (.record [.scalar (.text "a\n")]) := by
    cbv
  have hr : r = ⟨.record [.scalar (.text "a\n")], none,
      dumpedSink shape (.record [.scalar (.text "a\n")])⟩ := resolveWith_dump rfl hmerge
  have htext : dumpText shape (.record [.scalar (.text "a\n")]) = "s: |\n  a\n" := by
    cbv
  have hread : Yaml.read? "s: |\n  a\n" = some (.mapping [(.string "s", .string "a\n")]) := by
    cbv
  have hkept : Yaml.endsKept "s: |\n  a\n".toList = false := by
    cbv
  have hbytes : r.sink.bytes = shown.toUTF8 := by
    rw [hr, bytes_dumpedSink, dumpedText, htext]
    rfl
  have hmemory : ∀ d, (Source.ofText none).load reach = .ok d → d.InMemory := by
    intro d hd
    have hnothing : Source.ofText none = .nothing := by decide
    rw [hnothing] at hd
    cases hd
    exact .mapping (by simp)
  have hdumped := @resolveWith_dumped ⟨none, true⟩ reach reach _ "serve" "hello" "dump.yaml"
    "dump.yaml" [⟨"STRATUM_SERVE_S", "a\n"⟩] r hshape hstarts hmemory (by decide) rfl rfl
    (by rw [hr]) (by rw [hr, htext, hread]; rfl) (by rw [hr, htext, hkept]) (by decide)
    (by decide) (by rw [hbytes]) rfl
  exact ⟨by rw [hr], by rw [hr], hbytes, hdumped.2⟩

/-- A text that ends in two line breaks gets a third one when it is read again, and a path from the
start that is no text is read again as a text. -/
theorem resolveWith_dumped_differs :
    let reach (text : String) : Source.Reach :=
      ⟨fun _ => .ok text.toUTF8, fun _ => none, Source.Language.parse⟩
    let first (shape : Shape) (vs : List Variable) :=
      (⟨none, true⟩ : Request).resolveWith (reach "") shape "serve" vs shape.start .unbounded
    let again (shape : Shape) (shown : String) :=
      (⟨some "dump.yaml", true⟩ : Request).resolveWith (reach shown) shape "serve" [] shape.start
        .unbounded
    let string : Shape := .record (.plain "s" (.leaf .string) (.scalar (.text "hello")) .nil)
    let path : Shape := .record (.plain "p" (.leaf .path) (.scalar (.path ⟨#[0xFF]⟩)) .nil)
    let r := first string [⟨"STRATUM_SERVE_S", "a\n\n"⟩]
    let q := first path []
    (string.Reversible ∧ string.StartsWith Leaf.HoldsTextual ∧
      r.error = none ∧ r.value = .record [.scalar (.text "a\n\n")] ∧
      r.sink.bytes = "---\ns: |+\n  a\n\n\n".toUTF8 ∧
      Yaml.read? (dumpText string r.value) = some (string.encode r.value) ∧
      again string "---\ns: |+\n  a\n\n\n" = ⟨.record [.scalar (.text "a\n\n\n")], none,
        dumpedSink string (.record [.scalar (.text "a\n\n\n")])⟩) ∧
    path.Reversible ∧ Text.IsTrimmed (Text.decodeLossy ⟨#[0xFF]⟩) ∧
      q.error = none ∧ q.value = .record [.scalar (.path ⟨#[0xFF]⟩)] ∧
      q.sink.bytes = "---\np: \ufffd\n\n".toUTF8 ∧
      Yaml.read? (dumpText path q.value) = some (path.encode q.value) ∧
      again path "---\np: \ufffd\n\n" = ⟨.record [.scalar (.path "\ufffd".toUTF8)], none,
        dumpedSink path (.record [.scalar (.path "\ufffd".toUTF8)])⟩ := by
  intro reach first again string path r q
  have hmerge : merge (reach "") string (.ofText none)
      (Override.ofVariables ⟨overrideProgram, "serve"⟩ [⟨"STRATUM_SERVE_S", "a\n\n"⟩])
      string.start = .done (.record [.scalar (.text "a\n\n")]) := by
    cbv
  have hr : r = ⟨.record [.scalar (.text "a\n\n")], none,
      dumpedSink string (.record [.scalar (.text "a\n\n")])⟩ := resolveWith_dump rfl hmerge
  have htext : dumpText string (.record [.scalar (.text "a\n\n")]) = "s: |+\n  a\n\n" := by
    cbv
  have hread : Yaml.read? "s: |+\n  a\n\n" =
      some (.mapping [(.string "s", .string "a\n\n")]) := by
    cbv
  have hreread : Yaml.read? "---\ns: |+\n  a\n\n\n" =
      some (.mapping [(.string "s", .string "a\n\n\n")]) := by
    cbv
  have hq : q = ⟨.record [.scalar (.path ⟨#[0xFF]⟩)], none,
      dumpedSink path (.record [.scalar (.path ⟨#[0xFF]⟩)])⟩ := resolveWith_dump rfl rfl
  have hlossy : Text.decodeLossy ⟨#[0xFF]⟩ = "\ufffd" := by
    rw [Text.decodeLossy, Text.toList_bytes]
    decide
  have hencode : path.encode (.record [.scalar (.path ⟨#[0xFF]⟩)]) =
      .mapping [(.string "p", .string "\ufffd")] := by
    rw [← hlossy]
    rfl
  have hpath : dumpText path (.record [.scalar (.path ⟨#[0xFF]⟩)]) = "p: \ufffd\n" := by
    rw [dumpText, hencode]
    cbv
  have hreadPath : Yaml.read? "p: \ufffd\n" =
      some (.mapping [(.string "p", .string "\ufffd")]) := by
    cbv
  have hrereadPath : Yaml.read? "---\np: \ufffd\n\n" =
      some (.mapping [(.string "p", .string "\ufffd")]) := by
    cbv
  refine ⟨⟨reversible_single "s" trivial, startsWith_single "s" ⟨trivial, trivial⟩, ?_⟩,
    reversible_single "p" trivial, by rw [hlossy]; decide, ?_⟩
  · rw [hr, bytes_dumpedSink, dumpedText, htext]
    exact ⟨rfl, rfl, rfl, hread, resolveWith_file _ hreread rfl⟩
  · rw [hq, bytes_dumpedSink, dumpedText, hpath, hencode]
    exact ⟨rfl, rfl, rfl, hreadPath, resolveWith_file _ hrereadPath rfl⟩

end Request

end LayeredConfig
