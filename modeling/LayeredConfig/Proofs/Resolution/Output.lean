import LayeredConfig.Proofs.Resolution.Reread

namespace LayeredConfig

open Schema

/-! ### Sinks -/

namespace Sink

/-- Bytes may be written in two parts. -/
theorem writeBytes_append (sink : Sink) (xs ys : List UInt8) :
    sink.writeBytes (xs ++ ys) = match sink.writeBytes xs with
      | (true, sink) => sink.writeBytes ys
      | (false, sink) => (false, sink) := by
  obtain ⟨taken, _ | room⟩ := sink
  · simp [writeBytes]
  · by_cases hfits : xs.length ≤ room
    · have hrest : xs.length + ys.length ≤ room ↔ ys.length ≤ room - xs.length := by omega
      simp [writeBytes, hfits, hrest, List.take_append, List.take_of_length_le, Nat.sub_sub]
    · have hall : ¬xs.length + ys.length ≤ room := by omega
      have hnone : room - (xs.length + ys.length) = room - xs.length := by omega
      have hfull : room - xs.length = 0 := by omega
      simp [writeBytes, hfits, hall, hnone, hfull, List.take_append]

/-- Texts are written like one text. -/
theorem writeAll_eq (sink : Sink) (texts : List String) :
    sink.writeAll texts = sink.writeBytes (texts.flatMap Text.bytesOf) := by
  induction texts generalizing sink with
  | nil =>
    obtain ⟨taken, _ | room⟩ := sink <;> simp [writeAll, writeBytes]
  | cons text texts ih =>
    rw [List.flatMap_cons, writeBytes_append, writeAll, write, ← Text.bytesOf]
    cases sink.writeBytes (Text.bytesOf text) with
    | mk whole sink => cases whole with
      | true => exact ih sink
      | false => rfl

end Sink

theorem bytesOf_dumpedText (shape : Shape) (value : Value) :
    (dumpPieces shape value).flatMap Text.bytesOf = Text.bytesOf (dumpedText shape value) := by
  simp [dumpPieces, dumpedText, Text.bytesOf]

/-! ### Merging -/

section

variable {reach : Source.Reach} {shape : Shape} {source : Source} {os : List Override}
  {start w : Value} {d : Document}

theorem merge_unloaded {e : Source.LoadError} (hload : source.load reach = .error e) :
    merge reach shape source os start = .failed start (.load e) := by
  rw [merge, hload]

theorem merge_undecoded {e : DecodeError} (hload : source.load reach = .ok d)
    (hdecode : shape.decode start d "" = .failed w e) :
    merge reach shape source os start = .failed w (.decode e) := by
  rw [merge, hload]
  dsimp only
  rw [hdecode]
  rfl

theorem merge_decoded (hload : source.load reach = .ok d)
    (hdecode : shape.decode start d "" = .done w) :
    merge reach shape source os start =
      (Override.applyAll shape w os).mapError .override := by
  rw [merge, hload]
  dsimp only
  rw [hdecode]
  rfl

end

/-! ### Ways out -/

namespace Request

section

variable {request : Request} {reach : Source.Reach} {shape : Shape} {command : String}
  {vs : List Variable} {start value : Value} {e : ConfigError}

theorem resolveWith_failed (sink : Sink)
    (hmerge : merge reach shape (.ofText request.source)
      (Override.ofVariables ⟨overrideProgram, command⟩ vs) start = .failed value e) :
    request.resolveWith reach shape command vs start sink = ⟨value, some e, sink⟩ := by
  rw [resolveWith, hmerge]
  rfl

theorem resolveWith_silent (sink : Sink) (hdump : request.dump = false)
    (hmerge : merge reach shape (.ofText request.source)
      (Override.ofVariables ⟨overrideProgram, command⟩ vs) start = .done value) :
    request.resolveWith reach shape command vs start sink = ⟨value, none, sink⟩ := by
  rw [resolveWith, hmerge, hdump]
  rfl

/-- A configuration that is to be shown is written like one text. -/
theorem resolveWith_shown (sink : Sink) (hdump : request.dump = true)
    (hmerge : merge reach shape (.ofText request.source)
      (Override.ofVariables ⟨overrideProgram, command⟩ vs) start = .done value) :
    request.resolveWith reach shape command vs start sink =
      ⟨value, if (sink.writeBytes (Text.bytesOf (dumpedText shape value))).1 then none
          else some (.output (.other "output refused")),
        (sink.writeBytes (Text.bytesOf (dumpedText shape value))).2⟩ := by
  rw [resolveWith, hmerge]
  dsimp only [Outcome.done]
  rw [if_pos hdump, Sink.writeAll_eq, bytesOf_dumpedText]
  obtain ⟨_ | _, after⟩ := sink.writeBytes (Text.bytesOf (dumpedText shape value)) <;> rfl

end

/-- Where everything is taken, a resolution ends well if merging does. -/
theorem resolveWith_unbounded {request : Request} {reach : Source.Reach} {shape : Shape}
    {command : String} {vs : List Variable} {start value : Value}
    (hmerge : merge reach shape (.ofText request.source)
      (Override.ofVariables ⟨overrideProgram, command⟩ vs) start = .done value) :
    let r := request.resolveWith reach shape command vs start .unbounded
    r.error = none ∧ r.value = value := by
  intro r
  cases hdump : request.dump with
  | false =>
    have hr : r = _ := resolveWith_silent .unbounded hdump hmerge
    rw [hr]
    exact ⟨rfl, rfl⟩
  | true =>
    have hr : r = _ := resolveWith_shown .unbounded hdump hmerge
    rw [hr]
    exact ⟨rfl, rfl⟩

theorem value_resolveWith (request : Request) (reach : Source.Reach) (shape : Shape)
    (command : String) (vs : List Variable) (start : Value) (sink : Sink) :
    (request.resolveWith reach shape command vs start sink).value =
      (merge reach shape (.ofText request.source)
        (Override.ofVariables ⟨overrideProgram, command⟩ vs) start).value := by
  unfold resolveWith
  dsimp only
  generalize merge reach shape (.ofText request.source)
    (Override.ofVariables ⟨overrideProgram, command⟩ vs) start = o
  obtain ⟨value, _ | e⟩ := o
  · dsimp only
    split
    · split <;> rfl
    · rfl
  · rfl

/-- Where everything is taken, a resolution without an error that is asked to show the configuration
shows the whole text, and any other one nothing. -/
theorem bytes_resolveWith_unbounded (request : Request) (reach : Source.Reach) (shape : Shape)
    (command : String) (vs : List Variable) (start : Value) :
    let r := request.resolveWith reach shape command vs start .unbounded
    r.sink.bytes = if request.dump ∧ r.error = none then (dumpedText shape r.value).toUTF8
      else .empty := by
  have hnothing : Sink.unbounded.bytes = .empty := rfl
  unfold resolveWith
  dsimp only
  generalize merge reach shape (.ofText request.source)
    (Override.ofVariables ⟨overrideProgram, command⟩ vs) start = o
  obtain ⟨value, _ | e⟩ := o
  · cases request.dump with
    | true => simp [writeAll_dumpPieces, bytes_dumpedSink]
    | false => simp [hnothing]
  · simp [hnothing]

/-- Where loading, decoding or an override fails, the configuration is left as far as it came, and
nothing is written. Where everything is merged, the configuration is the same whether it is shown
or not and whatever the sink takes. It is shown as the header, the text and an empty line, of which
the sink has as much as it takes; if that is not all, the error is one of the dump. -/
theorem resolveWith_output (request : Request) (reach : Source.Reach) (shape : Shape)
    (command : String) (vs : List Variable) (start : Value) (room : Option ℕ) :
    let r := request.resolveWith reach shape command vs start ⟨[], room⟩
    let os := Override.ofVariables ⟨overrideProgram, command⟩ vs
    (∀ e, (Source.ofText request.source).load reach = .error e →
      r.error = some (.load e) ∧ r.value = start ∧ r.sink.taken = []) ∧
    (∀ d, (Source.ofText request.source).load reach = .ok d →
      (∀ w e, shape.decode start d "" = .failed w e →
        r.error = some (.decode e) ∧ r.value = w ∧ r.sink.taken = []) ∧
      ∀ w, shape.decode start d "" = .done w →
        (∀ c e, Override.applyAll shape w os = .failed c e →
          r.error = some (.override e) ∧ r.value = c ∧ r.sink.taken = []) ∧
        ∀ c, Override.applyAll shape w os = .done c → r.value = c ∧
          (request.dump = false → r.error = none ∧ r.sink.taken = []) ∧
          (request.dump = true →
            let shown := Text.bytesOf ("---\n" ++ Yaml.write (shape.encode c) ++ "\n")
            match room with
            | none => r.error = none ∧ r.sink.taken = shown
            | some limit => r.sink.taken = shown.take (min limit shown.length) ∧
              (r.error = none ↔ shown.length ≤ limit) ∧
              ∀ e, r.error = some e → e.kind = .dump)) ∧
    ∀ dump room', ((⟨request.source, dump⟩ : Request).resolveWith reach shape command vs start
      ⟨[], room'⟩).value = r.value := by
  intro r os
  refine ⟨?_, ?_, fun dump room' => by rw [value_resolveWith, value_resolveWith]⟩
  · intro e hload
    have hr : r = _ := resolveWith_failed ⟨[], room⟩ (merge_unloaded hload)
    rw [hr]
    exact ⟨rfl, rfl, rfl⟩
  intro d hload
  refine ⟨?_, fun w hdecode => ⟨?_, ?_⟩⟩
  · intro w e hdecode
    have hr : r = _ := resolveWith_failed ⟨[], room⟩ (merge_undecoded hload hdecode)
    rw [hr]
    exact ⟨rfl, rfl, rfl⟩
  · intro c e happly
    have hr : r = _ := resolveWith_failed ⟨[], room⟩
      ((merge_decoded hload hdecode).trans (by rw [happly]; rfl))
    rw [hr]
    exact ⟨rfl, rfl, rfl⟩
  intro c happly
  have hmerge : merge reach shape (.ofText request.source) os start = .done c :=
    (merge_decoded hload hdecode).trans (by rw [happly]; rfl)
  cases hdump : request.dump with
  | false =>
    have hr : r = _ := resolveWith_silent ⟨[], room⟩ hdump hmerge
    rw [hr]
    exact ⟨rfl, fun _ => ⟨rfl, rfl⟩, fun h => by cases h⟩
  | true =>
    have hr : r = _ := resolveWith_shown ⟨[], room⟩ hdump hmerge
    have hvalue : r.value = c := by rw [hr]
    refine ⟨hvalue, (fun h => by cases h), fun _ => ?_⟩
    intro shown
    cases room with
    | none =>
      rw [hr]
      exact ⟨rfl, rfl⟩
    | some limit =>
      dsimp only
      rw [hr, ← List.take_eq_take_min]
      refine ⟨rfl, ?_, ?_⟩
      · show (if decide (shown.length ≤ limit) = true then none else some _) = none ↔ _
        by_cases hfits : shown.length ≤ limit <;> simp [hfits]
      · intro e he
        obtain ⟨-, he⟩ := Option.ite_none_left_eq_some.1 he
        obtain rfl := Option.some.inj he
        rfl

/-- A sink that takes six bytes. -/
theorem resolveWith_output_cut :
    let shape : Shape := .record (.plain "s" (.leaf .string) (.scalar (.text "hello")) .nil)
    let reach : Source.Reach := ⟨fun _ => .error .notFound, fun _ => none, Source.Language.parse⟩
    let r := (⟨none, true⟩ : Request).resolveWith reach shape "serve"
      [⟨"STRATUM_SERVE_S", "bye"⟩] shape.start ⟨[], some 6⟩
    r.sink.taken = Text.bytesOf "---\ns:" ∧ r.value = .record [.scalar (.text "bye")] ∧
      ∃ e, r.error = some e ∧ e.kind = .dump := by
  intro shape reach r
  have hload : (Source.ofText none).load reach = .ok (.mapping []) := by
    have hnothing : Source.ofText none = .nothing := by decide
    rw [hnothing]
    rfl
  have happly : Override.applyAll shape shape.start (Override.ofVariables
      ⟨overrideProgram, "serve"⟩ [⟨"STRATUM_SERVE_S", "bye"⟩]) =
        .done (.record [.scalar (.text "bye")]) := by
    cbv
  have htext : Yaml.write (shape.encode (.record [.scalar (.text "bye")])) = "s: bye\n" := by
    cbv
  have hlength : (Text.bytesOf "---\ns: bye\n\n").length = 12 := rfl
  have hdecode : shape.decode shape.start (.mapping []) "" = .done shape.start := rfl
  have hall := resolveWith_output ⟨none, true⟩ reach shape "serve" [⟨"STRATUM_SERVE_S", "bye"⟩]
    shape.start (some 6)
  generalize hr : (⟨none, true⟩ : Request).resolveWith reach shape "serve"
    [⟨"STRATUM_SERVE_S", "bye"⟩] shape.start ⟨[], some 6⟩ = r' at hall
  have hr : r = r' := hr
  obtain ⟨hvalue, -, hcut⟩ := ((hall.2.1 _ hload).2 _ hdecode).2 _ happly
  obtain ⟨htaken, hok, hkind⟩ := hcut rfl
  rw [htext] at htaken hok
  have hlong : ¬(Text.bytesOf "---\ns: bye\n\n").length ≤ 6 := by
    rw [hlength]
    decide
  obtain ⟨e, he⟩ := Option.ne_none_iff_exists'.1 fun hnone => hlong (hok.1 hnone)
  rw [hr]
  exact ⟨htaken.trans rfl, hvalue, e, he, hkind e he⟩

end Request

end LayeredConfig
