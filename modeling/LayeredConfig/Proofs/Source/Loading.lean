import LayeredConfig.Proofs.Files.Path
import LayeredConfig.Proofs.Text.Utf8
import LayeredConfig.Service.Host

namespace LayeredConfig.Source

open Text

/-! ### Web addresses -/

/-- The scheme before `://` is one of the web's, in any ASCII case. -/
def IsUrl (s : String) : Prop :=
  ∃ scheme rest, s = scheme ++ "://" ++ rest ∧
    (asciiLower scheme = "http" ∨ asciiLower scheme = "https")

theorem exists_of_schemeOf? {cs scheme : List Char} (h : schemeOf? cs = some scheme) :
    ∃ rest, cs = scheme ++ ':' :: '/' :: '/' :: rest := by
  fun_induction schemeOf? cs generalizing scheme with
  | case1 rest =>
    obtain rfl := Option.some.inj h
    exact ⟨rest, rfl⟩
  | case2 => cases h
  | case3 c cs _ ih =>
    obtain ⟨scheme, hscheme, rfl⟩ := Option.map_eq_some_iff.1 h
    obtain ⟨rest, rfl⟩ := ih hscheme
    exact ⟨rest, rfl⟩

theorem schemeOf?_append {scheme : List Char} (h : ':' ∉ scheme) (rest : List Char) :
    schemeOf? (scheme ++ ':' :: '/' :: '/' :: rest) = some scheme := by
  induction scheme with
  | nil => rfl
  | cons c scheme ih =>
    obtain ⟨hc, hscheme⟩ := List.ne_and_not_mem_of_not_mem_cons h
    rw [List.cons_append, schemeOf?, ih hscheme, Option.map_some]
    exact fun tail hcolon _ => hc hcolon.symm

theorem colon_not_mem_scheme {scheme : String}
    (h : asciiLower scheme = "http" ∨ asciiLower scheme = "https") : ':' ∉ scheme.toList := by
  intro hmem
  have hlower : ':' ∈ (asciiLower scheme).toList := by
    rw [toList_asciiLower]
    exact List.mem_map.2 ⟨':', hmem, by decide⟩
  rcases h with h | h <;> rw [h] at hlower <;> exact absurd hlower (by decide)

theorem isRemote_eq_true_iff {s : String} : isRemote s = true ↔ IsUrl s := by
  constructor
  · intro h
    unfold isRemote at h
    split at h
    · cases h
    · next scheme hscheme =>
      obtain ⟨rest, hrest⟩ := exists_of_schemeOf? hscheme
      refine ⟨String.ofList scheme, String.ofList rest, ?_, by simpa using h⟩
      apply String.toList_injective
      simp [hrest]
  · rintro ⟨scheme, rest, rfl, hscheme⟩
    have htoList : (scheme ++ "://" ++ rest).toList =
        scheme.toList ++ ':' :: '/' :: '/' :: rest.toList := by simp
    rw [isRemote, htoList, schemeOf?_append (colon_not_mem_scheme hscheme)]
    simpa using hscheme

theorem IsUrl.ne_empty {s : String} (h : IsUrl s) : s ≠ "" := by
  obtain ⟨scheme, rest, rfl, -⟩ := h
  simp

/-! ### What is obtained -/

def NamesToml (name : String) : Prop :=
  ∃ extension, Files.HasExtension name extension ∧ asciiLower extension = "toml"

theorem Language.ofPath_eq_toml_iff {path : String} :
    Language.ofPath path = .toml ↔ NamesToml path := by
  have hname : (Files.extension? path).map asciiLower = some "toml" ↔ NamesToml path := by
    simp only [Option.map_eq_some_iff, Files.extension?_eq_some_iff, NamesToml]
  rw [Language.ofPath, ← hname]
  split <;> simp_all

/-- A file's language is the one that its name says. -/
theorem Language.ofPath_eq {language : Language} {path : String}
    (h : language = .toml ↔ NamesToml path) : Language.ofPath path = language := by
  rw [← ofPath_eq_toml_iff] at h
  cases language <;> cases hpath : Language.ofPath path <;> simp_all

/-- The text of the document at a location and its language: an answer that succeeded is YAML
whatever its content type, and a file is what its name says. -/
inductive Obtains (reach : Reach) (location : String) : Language → String → Prop
  | answer {answer : Http.Answer} {bytes : ByteArray} (hurl : IsUrl location)
      (hrequest : reach.request location = some answer)
      (hstatus : 200 ≤ answer.status ∧ answer.status < 300) (hbody : answer.body = some bytes) :
      Obtains reach location .yaml (decodeLossy bytes)
  | file {language : Language} {text : String} (hne : location ≠ "") (hlocal : ¬IsUrl location)
      (hlanguage : language = .toml ↔ NamesToml location)
      (hread : reach.readFile location = .ok text.toUTF8) : Obtains reach location language text

/-- Why there is no text at a location: the file cannot be read or is no UTF-8, the request fails or
its answer breaks off, or the status of the answer is no success. -/
inductive Lacks (reach : Reach) (location : String) : Unreachable → Prop
  | unread {e : Files.Error} (hne : location ≠ "") (hlocal : ¬IsUrl location)
      (hread : reach.readFile location = .error e) : Lacks reach location (.file e)
  | notText {bytes : ByteArray} (hne : location ≠ "") (hlocal : ¬IsUrl location)
      (hread : reach.readFile location = .ok bytes) (h : ∀ text : String, bytes ≠ text.toUTF8) :
      Lacks reach location (.file .notText)
  | unanswered (hurl : IsUrl location) (hrequest : reach.request location = none) :
      Lacks reach location .noAnswer
  | refused {answer : Http.Answer} (hurl : IsUrl location)
      (hrequest : reach.request location = some answer)
      (hstatus : ¬(200 ≤ answer.status ∧ answer.status < 300)) :
      Lacks reach location (.status answer.status)
  | brokenOff {answer : Http.Answer} (hurl : IsUrl location)
      (hrequest : reach.request location = some answer)
      (hstatus : 200 ≤ answer.status ∧ answer.status < 300) (hbody : answer.body = none) :
      Lacks reach location .noAnswer

variable {reach : Reach} {location text : String} {language : Language} {source : Option String}

theorem obtains_or_lacks (reach : Reach) (hne : location ≠ "") :
    (∃ language text, Obtains reach location language text) ∨
      ∃ reason, Lacks reach location reason := by
  by_cases hurl : IsUrl location
  · cases hrequest : reach.request location with
    | none => exact .inr ⟨_, .unanswered hurl hrequest⟩
    | some answer =>
      by_cases hstatus : 200 ≤ answer.status ∧ answer.status < 300
      · cases hbody : answer.body with
        | none => exact .inr ⟨_, .brokenOff hurl hrequest hstatus hbody⟩
        | some bytes => exact .inl ⟨_, _, .answer hurl hrequest hstatus hbody⟩
      · exact .inr ⟨_, .refused hurl hrequest hstatus⟩
  · cases hread : reach.readFile location with
    | error e => exact .inr ⟨_, .unread hne hurl hread⟩
    | ok bytes =>
      by_cases htext : ∃ text : String, bytes = text.toUTF8
      · obtain ⟨text, rfl⟩ := htext
        exact .inl ⟨_, _, .file hne hurl Language.ofPath_eq_toml_iff hread⟩
      · exact .inr ⟨_, .notText hne hurl hread fun text h => htext ⟨text, h⟩⟩

/-! ### What is read -/

inductive Reach.Holds (reach : Reach) (language : Language) (text : String) : Document → Prop
  | empty (h : reach.parse language text = .ok .null) : Holds reach language text (.mapping [])
  | mapping {entries : List (Document × Document)}
      (h : reach.parse language text = .ok (.mapping entries)) :
      Holds reach language text (.mapping entries)

/-- Why a text holds no document: its language's reader refuses it, or what is read is neither a
mapping nor null. -/
inductive Reach.Misreads (reach : Reach) (language : Language) (text : String) : Malformed → Prop
  | refused {reason : String} (h : reach.parse language text = .error reason) :
      Misreads reach language text (.refused language reason)
  | top {d : Document} (h : reach.parse language text = .ok d) (hnull : d ≠ .null)
      (hmapping : ∀ entries, d ≠ .mapping entries) : Misreads reach language text .notAMapping

theorem topLevel_eq_error_iff {d : Document} {reason : Malformed} :
    topLevel d = .error reason ↔
      reason = .notAMapping ∧ d ≠ .null ∧ ∀ entries, d ≠ .mapping entries := by
  cases d <;> simp [topLevel, eq_comm]

theorem Reach.document_eq_error_iff {reason : Malformed} :
    reach.document language text = .error reason ↔ reach.Misreads language text reason := by
  unfold document
  cases hparse : reach.parse language text with
  | error why =>
    constructor
    · rintro ⟨⟩
      exact .refused hparse
    · intro h
      cases h with
      | refused h =>
        obtain rfl := Except.error.inj (hparse.symm.trans h)
        rfl
      | top h => cases hparse.symm.trans h
  | ok d =>
    refine topLevel_eq_error_iff.trans ⟨?_, fun h => ?_⟩
    · rintro ⟨rfl, hnull, hmapping⟩
      exact .top hparse hnull hmapping
    · cases h with
      | refused h => cases hparse.symm.trans h
      | top h hnull hmapping =>
        obtain rfl := Except.ok.inj (hparse.symm.trans h)
        exact ⟨rfl, hnull, hmapping⟩

theorem Reach.document_eq_ok_iff {d : Document} :
    reach.document language text = .ok d ↔ reach.Holds language text d := by
  unfold document
  cases hparse : reach.parse language text with
  | error why =>
    constructor
    · nofun
    · intro h
      cases h with
      | empty h => cases hparse.symm.trans h
      | mapping h => cases hparse.symm.trans h
  | ok d' =>
    constructor
    · intro h
      cases d' with
      | null =>
        obtain rfl := Except.ok.inj h
        exact .empty hparse
      | mapping entries =>
        obtain rfl := Except.ok.inj h
        exact .mapping hparse
      | _ => cases h
    · intro h
      cases h with
      | empty h =>
        obtain rfl := Except.ok.inj (hparse.symm.trans h)
        rfl
      | mapping h =>
        obtain rfl := Except.ok.inj (hparse.symm.trans h)
        rfl

theorem Reach.Holds.exists_entries {d : Document} (h : reach.Holds language text d) :
    ∃ entries, d = .mapping entries := by
  cases h with
  | empty => exact ⟨[], rfl⟩
  | @mapping entries => exact ⟨entries, rfl⟩

/-! ### Loading -/

theorem ofText_of_empty (h : trim (source.getD "") = "") : ofText source = .nothing := by
  simp [ofText, h]

theorem ofText_of_isUrl (hurl : IsUrl (trim (source.getD ""))) :
    ofText source = .remote (trim (source.getD "")) := by
  simp [ofText, hurl.ne_empty, isRemote_eq_true_iff.2 hurl]

theorem ofText_of_not_isUrl (hne : trim (source.getD "") ≠ "")
    (hlocal : ¬IsUrl (trim (source.getD ""))) : ofText source = .file (trim (source.getD "")) := by
  simp [ofText, hne, isRemote_eq_true_iff, hlocal]

theorem load_of_text {s : Source} (hs : s ≠ .nothing) (h : s.text reach = .ok text) :
    s.load reach = (reach.document s.language text).mapError (.malformed s.location) := by
  cases s with
  | nothing => exact absurd rfl hs
  | _ =>
    simp only [load, h]
    split <;> simp_all [Except.mapError]

theorem load_of_no_text {s : Source} {reason : Unreachable} (hs : s ≠ .nothing)
    (h : s.text reach = .error reason) :
    s.load reach = .error (.unreachable s.location reason) := by
  cases s with
  | nothing => exact absurd rfl hs
  | _ => simp only [load, h]

theorem Obtains.load_eq (h : Obtains reach (trim (source.getD "")) language text) :
    (ofText source).load reach =
      (reach.document language text).mapError (.malformed (trim (source.getD ""))) := by
  cases h with
  | @answer answer bytes hurl hrequest hstatus hbody =>
    rw [ofText_of_isUrl hurl]
    have htext : (Source.remote (trim (source.getD ""))).text reach = .ok (decodeLossy bytes) := by
      simp [Source.text, answerText, hrequest, Http.Answer.isSuccess, hstatus, hbody]
    exact load_of_text (by simp) htext
  | file hne hlocal hlanguage hread =>
    have htext : (Source.file (trim (source.getD ""))).text reach = .ok text := by
      rw [Source.text, fileText, hread]
      dsimp only
      rw [decode?_toUTF8]
    rw [ofText_of_not_isUrl hne hlocal, load_of_text (by simp) htext, Source.language,
      Language.ofPath_eq hlanguage]
    rfl

theorem Lacks.load_eq {reason : Unreachable} (h : Lacks reach (trim (source.getD "")) reason) :
    (ofText source).load reach = .error (.unreachable (trim (source.getD "")) reason) := by
  cases h with
  | unread hne hlocal hread =>
    rw [ofText_of_not_isUrl hne hlocal]
    exact load_of_no_text (by simp) (by simp [Source.text, fileText, hread])
  | @notText bytes hne hlocal hread h =>
    have hdecode : decode? bytes = none := by
      rw [Option.eq_none_iff_forall_ne_some]
      exact fun text htext => h text (toUTF8_of_decode? htext).symm
    rw [ofText_of_not_isUrl hne hlocal]
    exact load_of_no_text (by simp) (by simp [Source.text, fileText, hread, hdecode])
  | unanswered hurl hrequest =>
    rw [ofText_of_isUrl hurl]
    exact load_of_no_text (by simp) (by simp [Source.text, answerText, hrequest])
  | @refused answer hurl hrequest hstatus =>
    have hsuccess : answer.isSuccess = false := by
      simpa [Http.Answer.isSuccess] using hstatus
    rw [ofText_of_isUrl hurl]
    exact load_of_no_text (by simp) (by simp [Source.text, answerText, hrequest, hsuccess])
  | brokenOff hurl hrequest hstatus hbody =>
    rw [ofText_of_isUrl hurl]
    exact load_of_no_text (by simp)
      (by simp [Source.text, answerText, hrequest, Http.Answer.isSuccess, hstatus, hbody])

theorem load_of_empty (h : trim (source.getD "") = "") :
    (ofText source).load reach = .ok (.mapping []) := by
  rw [ofText_of_empty h]
  rfl

/-- A text that was obtained gives its document, or is malformed. -/
theorem Obtains.load_cases (h : Obtains reach (trim (source.getD "")) language text) :
    (∃ d, reach.Holds language text d ∧ (ofText source).load reach = .ok d) ∨
      ∃ reason, reach.Misreads language text reason ∧
        (ofText source).load reach = .error (.malformed (trim (source.getD "")) reason) := by
  rw [h.load_eq]
  cases hdocument : reach.document language text with
  | ok d => exact .inl ⟨d, Reach.document_eq_ok_iff.1 hdocument, rfl⟩
  | error reason => exact .inr ⟨reason, Reach.document_eq_error_iff.1 hdocument, rfl⟩

theorem load_eq_ok_iff {d : Document} : (ofText source).load reach = .ok d ↔
    trim (source.getD "") = "" ∧ d = .mapping [] ∨
      ∃ language text, Obtains reach (trim (source.getD "")) language text ∧
        reach.Holds language text d := by
  constructor
  · intro h
    by_cases hempty : trim (source.getD "") = ""
    · cases (load_of_empty hempty).symm.trans h
      exact .inl ⟨hempty, rfl⟩
    · rcases obtains_or_lacks reach hempty with ⟨language, text, hobtains⟩ | ⟨reason, hlacks⟩
      · rcases hobtains.load_cases with ⟨d', hholds, hok⟩ | ⟨reason, -, herror⟩
        · cases hok.symm.trans h
          exact .inr ⟨language, text, hobtains, hholds⟩
        · cases herror.symm.trans h
      · cases hlacks.load_eq.symm.trans h
  · rintro (⟨hempty, rfl⟩ | ⟨language, text, hobtains, hholds⟩)
    · exact load_of_empty hempty
    · rw [hobtains.load_eq, Reach.document_eq_ok_iff.2 hholds]
      rfl

theorem load_eq_unreachable_iff {reason : Unreachable} :
    (ofText source).load reach = .error (.unreachable (trim (source.getD "")) reason) ↔
      Lacks reach (trim (source.getD "")) reason := by
  refine ⟨fun h => ?_, Lacks.load_eq⟩
  by_cases hempty : trim (source.getD "") = ""
  · cases (load_of_empty hempty).symm.trans h
  · rcases obtains_or_lacks reach hempty with ⟨language, text, hobtains⟩ | ⟨reason', hlacks⟩
    · rcases hobtains.load_cases with ⟨d, -, hok⟩ | ⟨reason', -, herror⟩
      · cases hok.symm.trans h
      · cases herror.symm.trans h
    · cases hlacks.load_eq.symm.trans h
      exact hlacks

theorem load_eq_malformed_iff {reason : Malformed} :
    (ofText source).load reach = .error (.malformed (trim (source.getD "")) reason) ↔
      ∃ language text, Obtains reach (trim (source.getD "")) language text ∧
        reach.Misreads language text reason := by
  constructor
  · intro h
    by_cases hempty : trim (source.getD "") = ""
    · cases (load_of_empty hempty).symm.trans h
    · rcases obtains_or_lacks reach hempty with ⟨language, text, hobtains⟩ | ⟨reason', hlacks⟩
      · rcases hobtains.load_cases with ⟨d, -, hok⟩ | ⟨reason', hmisreads, herror⟩
        · cases hok.symm.trans h
        · cases herror.symm.trans h
          exact ⟨language, text, hobtains, hmisreads⟩
      · cases hlacks.load_eq.symm.trans h
  · rintro ⟨language, text, hobtains, hmisreads⟩
    rw [hobtains.load_eq, Reach.document_eq_error_iff.2 hmisreads]
    rfl

/-- Where something is named, its text is missing exactly when none is obtained. -/
theorem exists_lacks_iff : (∃ reason, Lacks reach (trim (source.getD "")) reason) ↔
    trim (source.getD "") ≠ "" ∧
      ∀ language text, ¬Obtains reach (trim (source.getD "")) language text := by
  constructor
  · rintro ⟨reason, hlacks⟩
    refine ⟨fun hempty => ?_, fun language text hobtains => ?_⟩
    · cases (load_of_empty hempty).symm.trans hlacks.load_eq
    · rcases hobtains.load_cases with ⟨d, -, hok⟩ | ⟨reason', -, herror⟩
      · cases hok.symm.trans hlacks.load_eq
      · cases herror.symm.trans hlacks.load_eq
  · rintro ⟨hne, hnone⟩
    rcases obtains_or_lacks reach hne with ⟨language, text, hobtains⟩ | hlacks
    · exact absurd hobtains (hnone language text)
    · exact hlacks

/-- Loading gives a mapping, or an error with the trimmed source: the source is unreachable exactly
when no text is obtained, and malformed exactly when no document can be read in the text. Nothing is
looked up for a blank source. An answer and a file with one text give the same. -/
theorem load_classified (source : Option String) (reach : Reach) :
    let location := trim (source.getD "")
    let loaded := (ofText source).load reach
    (location = "" → loaded = .ok (.mapping []) ∧
      ∀ (m : Type → Type) [Monad m] (host : Service.Host m),
        ∃ nowhere, host.reach (ofText source) = pure nowhere) ∧
    ((∃ entries, loaded = .ok (.mapping entries)) ∨
      (∃ reason, loaded = .error (.unreachable location reason)) ∨
      ∃ reason, loaded = .error (.malformed location reason)) ∧
    (∀ d, loaded = .ok d ↔ location = "" ∧ d = .mapping [] ∨
      ∃ language text, Obtains reach location language text ∧ reach.Holds language text d) ∧
    (∀ reason, loaded = .error (.unreachable location reason) ↔ Lacks reach location reason) ∧
    ((∃ reason, Lacks reach location reason) ↔
      location ≠ "" ∧ ∀ language text, ¬Obtains reach location language text) ∧
    (∀ reason, loaded = .error (.malformed location reason) ↔
      ∃ language text, Obtains reach location language text ∧ reach.Misreads language text reason) ∧
    ∀ (text name : String) (answer : Http.Answer) (files : Reach), IsUrl location →
      reach.request location = some answer → 200 ≤ answer.status ∧ answer.status < 300 →
      answer.body = some text.toUTF8 → trim name ≠ "" → ¬IsUrl (trim name) →
      ¬NamesToml (trim name) → files.readFile (trim name) = .ok text.toUTF8 →
      files.parse = reach.parse →
      ∃ result : Except Malformed Document, loaded = result.mapError (.malformed location) ∧
        (ofText (some name)).load files = result.mapError (.malformed (trim name)) := by
  intro location loaded
  refine ⟨fun hempty => ⟨load_of_empty hempty, fun m _ host => ?_⟩, ?_, fun d => load_eq_ok_iff,
    fun reason => load_eq_unreachable_iff, exists_lacks_iff, fun reason => load_eq_malformed_iff,
    ?_⟩
  · rw [ofText_of_empty hempty]
    exact ⟨_, rfl⟩
  · by_cases hempty : location = ""
    · exact .inl ⟨[], load_of_empty hempty⟩
    · rcases obtains_or_lacks reach hempty with ⟨language, text, hobtains⟩ | ⟨reason, hlacks⟩
      · rcases hobtains.load_cases with ⟨d, hholds, hok⟩ | ⟨reason, -, herror⟩
        · obtain ⟨entries, rfl⟩ := hholds.exists_entries
          exact .inl ⟨entries, hok⟩
        · exact .inr (.inr ⟨reason, herror⟩)
      · exact .inr (.inl ⟨reason, hlacks.load_eq⟩)
  · intro text name answer files hurl hrequest hstatus hbody hne hlocal hname hread hparse
    -- Bytes that are UTF-8 are read alike, whether or not they are checked.
    have hanswer : Obtains reach location .yaml text := by
      have h := Obtains.answer hurl hrequest hstatus hbody
      rwa [decodeLossy_toUTF8] at h
    have hfile : Obtains files (trim ((some name).getD "")) .yaml text :=
      .file hne hlocal (by simpa using hname) hread
    have hsame : files.document .yaml text = reach.document .yaml text := by
      rw [Reach.document, hparse, Reach.document]
    exact ⟨reach.document .yaml text, hanswer.load_eq, hsame ▸ hfile.load_eq⟩

/-- A blank source, a refused request, a file that is no YAML, and a text that an answer and a file
share. -/
theorem load_classified_settings :
    let text := "port: 80\n"
    let url := " HTTPS://host/a.toml"
    let answering (answer : Http.Answer) : Reach :=
      ⟨fun _ => .error .notFound, fun _ => some answer, Language.parse⟩
    let holding (text : String) : Reach :=
      ⟨fun _ => .ok text.toUTF8, fun _ => none, Language.parse⟩
    let web := answering ⟨206, "text/plain", text.toUTF8⟩
    let refusing := answering ⟨404, none, text.toUTF8⟩
    let files := holding text
    let broken := holding "["
    (ofText (some " ")).load files = .ok (.mapping []) ∧
    (ofText (some url)).load refusing =
      .error (.unreachable "HTTPS://host/a.toml" (.status 404)) ∧
    (ofText (some "a.yaml")).load broken =
      .error (.malformed "a.yaml" (.refused .yaml "not a YAML document")) ∧
    ∃ result : Except Malformed Document,
      (ofText (some url)).load web = result.mapError (.malformed "HTTPS://host/a.toml") ∧
      (ofText (some "a.toml.yml ")).load files = result.mapError (.malformed "a.toml.yml") := by
  intro text url answering holding web refusing files broken
  have hurl : IsUrl "HTTPS://host/a.toml" := ⟨"HTTPS", "host/a.toml", by decide, .inr (by decide)⟩
  have hlocal (name : String) (h : isRemote name = false) : ¬IsUrl name := by
    rw [← isRemote_eq_true_iff, h]
    exact Bool.false_ne_true
  have hname (name : String) (h : Language.ofPath name = .yaml) : ¬NamesToml name := by
    rw [← Language.ofPath_eq_toml_iff, h]
    exact nofun
  have hrefused : Lacks refusing "HTTPS://host/a.toml" (.status 404) :=
    @Lacks.refused _ _ ⟨404, none, text.toUTF8⟩ hurl rfl (by decide)
  have hbroken : Obtains broken "a.yaml" .yaml "[" :=
    .file (by decide) (hlocal _ (by decide)) (by simpa using hname _ (by decide)) rfl
  have hread : Yaml.read? "[" = none := by decide +kernel
  have hmisreads : broken.Misreads .yaml "[" (.refused .yaml "not a YAML document") :=
    .refused (by rw [show broken.parse = Language.parse from rfl, Language.parse, hread])
  have htrimUrl : trim url = "HTTPS://host/a.toml" := by decide
  have htrimBroken : trim "a.yaml" = "a.yaml" := by decide
  have htrimFile : trim "a.toml.yml " = "a.toml.yml" := by decide
  obtain ⟨hblank, -⟩ := load_classified (some " ") files
  have hunreachable := (load_classified (some url) refusing).2.2.2.1
  have hmalformed := (load_classified (some "a.yaml") broken).2.2.2.2.2.1
  have hsame := (load_classified (some url) web).2.2.2.2.2.2 text "a.toml.yml "
  simp only [Option.getD_some, htrimUrl, htrimBroken, htrimFile] at hunreachable hmalformed hsame
  exact ⟨(hblank (by decide)).1, (hunreachable _).2 hrefused,
    (hmalformed _).2 ⟨_, _, hbroken, hmisreads⟩,
    hsame _ files hurl rfl (by decide) rfl (by decide) (hlocal _ (by decide))
      (hname _ (by decide)) rfl rfl⟩

end LayeredConfig.Source
