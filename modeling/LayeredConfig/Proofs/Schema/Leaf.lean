import LayeredConfig.Proofs.Duration.RoundTrip
import LayeredConfig.Proofs.Network.RoundTrip
import LayeredConfig.Proofs.Schema.Typing
import LayeredConfig.Proofs.Text.Utf8
import LayeredConfig.Schema.Encode

namespace LayeredConfig

theorem LogFormat.isTrimmed_name (f : LogFormat) : Text.IsTrimmed f.name := by
  cases f <;> decide

theorem LogFormat.read_name (f : LogFormat) : LogFormat.read f.name = .ok f := by
  cases f <;> rfl

namespace Schema

/-- What is written says everything: a path is a text without blanks at its ends, and an address
has no flow information. -/
def Scalar.IsTextual : Scalar → Prop
  | .path bytes => ∃ s, Text.IsTrimmed s ∧ bytes = s.toUTF8
  | .socketAddress a => a.flow = 0
  | _ => True

def Leaf.HoldsTextual (kind : Leaf) (s : Scalar) : Prop := kind.Holds s ∧ s.IsTextual

/-! ### Reading -/

theorem readText_eq_ok {α : Type} {read : String → Except TextError α} {d : Document} {x : α}
    (h : readText read d = .ok x) : ∃ s, read (Text.trim s) = .ok x := by
  unfold readText at h
  cases hs : scalarText? d with
  | none => simp [hs] at h
  | some s =>
    cases hread : read (Text.trim s) with
    | error e => simp [hs, hread] at h
    | ok y =>
      obtain rfl : y = x := by simpa [hs, hread] using h
      exact ⟨s, hread⟩

theorem orElse_eq_ok_iff {α ε : Type} {error : ε} {x : Option α} {a : α} :
    orElse error x = .ok a ↔ x = some a := by
  cases x <;> simp [orElse]

theorem map_eq_ok {ε α β : Type} {f : α → β} {r : Except ε α} {b : β} (h : r.map f = .ok b) :
    ∃ a, r = .ok a ∧ f a = b := by
  cases r with
  | error e => cases h
  | ok a => exact ⟨a, rfl, by simpa [Except.map] using h⟩

/-- What is read into a leaf is of its kind, and nothing but text. -/
theorem Leaf.read_holds {kind : Leaf} {d : Document} {s : Scalar} (h : kind.read d = .ok s) :
    kind.HoldsTextual s := by
  cases kind with
  | integer kind =>
    cases hi : integerOf? d with
    | none => simp [Leaf.read, hi] at h
    | some i =>
      by_cases hholds : kind.Holds i
      · obtain rfl : Scalar.integer i = s := by simpa [Leaf.read, hi, hholds] using h
        exact ⟨hholds, trivial⟩
      · simp [Leaf.read, hi, hholds] at h
  | path =>
    obtain ⟨text, hread, rfl⟩ := map_eq_ok h
    obtain ⟨whole, htrim⟩ := readText_eq_ok hread
    obtain rfl : Text.trim whole = text := by simpa using htrim
    exact ⟨trivial, _, Text.isTrimmed_trim whole, rfl⟩
  | socketAddress =>
    obtain ⟨a, hread, rfl⟩ := map_eq_ok h
    obtain ⟨whole, hwhole⟩ := readText_eq_ok hread
    exact ⟨trivial, Network.SocketAddress.flow_of_read? (orElse_eq_ok_iff.1 hwhole)⟩
  | _ =>
    obtain ⟨content, -, rfl⟩ := map_eq_ok h
    exact ⟨trivial, trivial⟩

theorem Leaf.start_holds (kind : Leaf) : kind.HoldsTextual kind.start := by
  cases kind with
  | integer kind =>
    have hzero : kind.Holds 0 := by cases kind <;> decide
    exact ⟨hzero, trivial⟩
  | path => exact ⟨trivial, "", by decide, rfl⟩
  | socketAddress => exact ⟨trivial, rfl⟩
  | _ => exact ⟨trivial, trivial⟩

theorem Leaf.invariant_holdsTextual : Leaf.Invariant Leaf.HoldsTextual :=
  ⟨Leaf.start_holds, fun _ _ _ => Leaf.read_holds⟩

theorem Leaf.invariant_holds : Leaf.Invariant Leaf.Holds :=
  ⟨fun kind => kind.start_holds.1, fun _ _ _ h => (Leaf.read_holds h).1⟩

/-! ### Writing -/

theorem readText_string {α : Type} {read : String → Except TextError α} {s : String} {x : α}
    (hs : Text.IsTrimmed s) (h : read s = .ok x) : readText read (.string s) = .ok x := by
  simp [readText, scalarText?, Text.trim_of_isTrimmed hs, h]

/-- A path reads back as its text. -/
theorem Leaf.read_encode_path (bytes : ByteArray) : Leaf.path.read (Scalar.path bytes).encode =
    .ok (.path (Text.trim (Text.decodeLossy bytes)).toUTF8) := rfl

/-- An address reads back without its flow information. -/
theorem Leaf.read_encode_socketAddress (a : Network.SocketAddress) :
    Leaf.socketAddress.read (Scalar.socketAddress a).encode =
      .ok (.socketAddress a.withoutFlow) := by
  have hread : readText (orElse .socketAddress ∘ Network.SocketAddress.read?) (.string a.text) =
      .ok a.withoutFlow :=
    readText_string a.unbroken_text.isTrimmed (orElse_eq_ok_iff.2 a.read?_text)
  rw [Leaf.read, Scalar.encode, hread]
  rfl

theorem Scalar.isNull_encode (s : Scalar) : s.encode.isNull = false := by
  cases s <;> rfl

/-- What is written for a leaf is read. -/
theorem Leaf.keeps_encode (kind : Leaf) (s : Scalar) : kind.keeps s.encode = false := by
  cases s <;> cases kind <;> rfl

/-- A leaf reads back what is written for it, if that says everything. -/
theorem Leaf.read_encode {kind : Leaf} {s : Scalar} (h : kind.HoldsTextual s) :
    kind.read s.encode = .ok s := by
  obtain ⟨hkind, htextual⟩ := h
  cases s with
  | text s => cases kind with
    | string => rfl
    | _ => cases hkind
  | flag b => cases kind with
    | bool => rfl
    | _ => cases hkind
  | integer i => cases kind with
    | integer kind =>
      have hholds : kind.Holds i := hkind
      simp [Leaf.read, Scalar.encode, integerOf?, Number.toInt?, hholds]
    | _ => cases hkind
  | float x => cases kind with
    | float => rfl
    | _ => cases hkind
  | duration d => cases kind with
    | duration =>
      simp [Leaf.read, Scalar.encode, readDuration, Text.trim_of_isTrimmed d.isTrimmed_text,
        Duration.read_text, Except.map]
    | _ => cases hkind
  | path bytes => cases kind with
    | path =>
      obtain ⟨s, htrimmed, rfl⟩ := htextual
      rw [Leaf.read_encode_path, Text.decodeLossy_toUTF8, Text.trim_of_isTrimmed htrimmed]
    | _ => cases hkind
  | socketAddress a => cases kind with
    | socketAddress =>
      rw [Leaf.read_encode_socketAddress, Network.SocketAddress.withoutFlow_eq_self_iff.2 htextual]
    | _ => cases hkind
  | ipAddress a => cases kind with
    | ipAddress =>
      have hread :
          readText (orElse .ipAddress ∘ Network.IpAddress.read?) (.string a.text) = .ok a :=
        readText_string a.unbroken_text.isTrimmed (by simp [Network.IpAddress.read?_text, orElse])
      simp [Leaf.read, Scalar.encode, hread, Except.map]
    | _ => cases hkind
  | logFormat f => cases kind with
    | logFormat =>
      have hread : readText (fun s => (LogFormat.read s).mapError .logFormat) (.string f.name) =
          .ok f :=
        readText_string f.isTrimmed_name (by simp [LogFormat.read_name, Except.mapError])
      simp [Leaf.read, Scalar.encode, hread, Except.map]
    | _ => cases hkind

/-- Exactly the contents that are written whole read back. -/
theorem Leaf.read_encode_iff {kind : Leaf} {s : Scalar} (h : kind.Holds s) :
    kind.read s.encode = .ok s ↔ s.IsTextual :=
  ⟨fun hread => (Leaf.read_holds hread).2, fun htextual => Leaf.read_encode ⟨h, htextual⟩⟩

end Schema

end LayeredConfig
