import ConfigAudit.Proofs.Service.Failing
import ConfigAudit.Proofs.Text.Utf8

/-! What the answer to an upload depends on. Of its content only the text that is decoded counts, and
its size where it is shown. Which of two uploads is looked at does not depend on their names, so an
unnamed first one stands in the way of a named second one. -/
namespace ConfigAudit

namespace Settings

section Strewn

variable {s : Settings} {t : Text} {bytes : List UInt8}
  (hbytes : Utf8.Strewn t bytes)
  (hsize : ∀ limit, s.maxUploadSize.limit = .ok limit → ¬limit.Below bytes.length)
include hbytes hsize

/-- Stray bytes make a file larger, but not too large. -/
theorem sizeRefusal?_strewn (subject : Subject) :
    s.sizeRefusal? subject bytes.length = s.sizeRefusal? subject (Utf8.encode t).length := by
  cases hlimit : s.maxUploadSize.limit with
  | error kind => simp only [sizeRefusal?, hlimit]
  | ok limit =>
    have hfits := hsize limit hlimit
    have hle := hbytes.length_encode_le
    rw [sizeRefusal?_of_not_below subject hlimit hfits,
      sizeRefusal?_of_not_below subject hlimit fun h => hfits (h.mono hle)]

theorem acceptFile_strewn (name contentType : Option Text) :
    s.acceptFile (some ⟨name, contentType, bytes⟩) =
      (s.acceptFile (some ⟨name, contentType, Utf8.encode t⟩)).map
        fun f => { f with size := bytes.length } := by
  have htext : Utf8.decodeLossy bytes = Utf8.decodeLossy (Utf8.encode t) := by
    rw [hbytes.decodeLossy_eq, Utf8.decodeLossy_encode]
  have hrefusal (name : Text) (given : Option Text) :
      s.fileRefusal? name ⟨given, contentType, bytes⟩ =
        s.fileRefusal? name ⟨given, contentType, Utf8.encode t⟩ := by
    simp only [fileRefusal?, htext, sizeRefusal?_strewn hbytes hsize]
  cases name with
  | none => rfl
  | some name =>
    cases name with
    | nil => rfl
    | cons c r =>
      simp only [acceptFile, hrefusal, htext]
      cases s.fileRefusal? (c :: r) ⟨some (c :: r), contentType, Utf8.encode t⟩ <;> rfl

end Strewn

end Settings

namespace Json

/-- The value of a member, if there is one. -/
def member? (name : Text) : Json → Option Json
  | .obj members => lookup name members
  | _ => none

/-- Objects with the same names may differ in the members that are not looked up. -/
theorem lookup_congr {name : Text} {members others : List (Text × Json)}
    (h : List.Forall₂ (fun m o => m.1 = o.1 ∧ (m.1 = name → m.2 = o.2)) members others) :
    lookup name members = lookup name others := by
  induction h with
  | nil => rfl
  | @cons m o _ _ hmember _ ih =>
    obtain ⟨hname, hvalue⟩ := hmember
    rw [lookup, lookup, ih, ← hname]
    by_cases hm : m.1 = name
    · rw [if_pos hm, if_pos hm, hvalue hm]
    · rw [if_neg hm, if_neg hm]

end Json

/-- Two reports on files that differ in nothing but the size. -/
structure FileReport.SameButSize (r q : FileReport) : Prop where
  filename : r.filename = q.filename
  rating : r.rating = q.rating
  analysis : r.analysis = q.analysis
  members : ∀ name : Text, name ≠ "fileSize" → name ≠ "fileSizeDisplay" →
    r.toJson.member? name = q.toJson.member? name

theorem FileReport.sameButSize_resized (r : FileReport) (size : Nat) :
    FileReport.SameButSize { r with fileSize := size } r := by
  refine ⟨rfl, rfl, rfl, fun name hsize hdisplay => Json.lookup_congr ?_⟩
  have hsame (m : Text × Json) : m.1 = m.1 ∧ (m.1 = name → m.2 = m.2) := ⟨rfl, fun _ => rfl⟩
  exact .cons (hsame _) <| .cons (hsame _) <| .cons ⟨rfl, fun h => absurd h.symm hsize⟩ <|
    .cons ⟨rfl, fun h => absurd h.symm hdisplay⟩ <| .cons (hsame _) <| .cons (hsame _) .nil

namespace Service

variable (s : Service) (engine : Engine)

/-- Of an accepted file, the size is only shown. -/
theorem handleFile_resized {file configFile file' configFile' : Option Upload} {size : Nat}
    (h : s.settings.acceptFile (file.or configFile) =
      (s.settings.acceptFile (file'.or configFile')).map fun f => { f with size := size })
    (password : Option Text) :
    s.handleFile engine file configFile password =
      ((s.handleFile engine file' configFile' password).1.map
        fun r => { r with fileSize := size }, (s.handleFile engine file' configFile' password).2) := by
  unfold handleFile
  rw [h]
  cases s.settings.acceptFile (file'.or configFile') with
  | error refusal => rfl
  | ok f =>
    simp only [Except.map]
    cases (s.tryAnalyze engine .file f.config password).1 <;> rfl

/-- Stray bytes that do not make a file too large change nothing but the size that is shown: the file
is refused for the same reason as without them, or analyzed to the same effect. -/
theorem handleFile_strewn {t : Text} {bytes : List UInt8} (hbytes : Utf8.Strewn t bytes)
    (hsize : ∀ limit, s.settings.maxUploadSize.limit = .ok limit → ¬limit.Below bytes.length)
    {name contentType : Option Text} {file configFile file' configFile' : Option Upload}
    (hstrewn : file.or configFile = some ⟨name, contentType, bytes⟩)
    (hplain : file'.or configFile' = some ⟨name, contentType, Utf8.encode t⟩)
    (password : Option Text) :
    let strewn := s.handleFile engine file configFile password
    let plain := s.handleFile engine file' configFile' password
    strewn.2 = plain.2 ∧
      ((∃ refusal, strewn.1 = .error refusal ∧ plain.1 = .error refusal) ∨
        ∃ r q, strewn.1 = .ok r ∧ plain.1 = .ok q ∧ r.SameButSize q ∧
          r.fileSize = bytes.length ∧ q.fileSize = (Utf8.encode t).length) := by
  intro strewn plain
  have haccept : s.settings.acceptFile (file.or configFile) =
      (s.settings.acceptFile (file'.or configFile')).map
        fun f => { f with size := bytes.length } := by
    rw [hstrewn, hplain, Settings.acceptFile_strewn hbytes hsize]
  have hanswer : strewn = (plain.1.map fun r => { r with fileSize := bytes.length }, plain.2) :=
    s.handleFile_resized engine haccept password
  rw [hanswer]
  refine ⟨rfl, ?_⟩
  cases houtcome : plain.1 with
  | error refusal => exact .inl ⟨refusal, rfl, rfl⟩
  | ok q =>
    refine .inr ⟨_, q, rfl, rfl, q.sameButSize_resized _, rfl, ?_⟩
    obtain ⟨f, hf, a, -, rfl⟩ := (s.handleFile_eq_ok_iff engine _ _ password q).mp houtcome
    rw [hplain] at hf
    obtain ⟨u, -, hu, -, -, -, -, rfl⟩ := (s.settings.acceptFile_eq_ok_iff _ f).mp hf
    rw [← Option.some.inj hu]

theorem handleFile_strewn_accented :
    let s : Service := { settings := { minConfigLength := .proper 4 } }
    let bytes : List UInt8 := [0xFF, 0x69, 0x70, 0x20, 0x80, 0xC0, 0xC3, 0xA9, 0xF5]
    Utf8.Strewn "ip é" bytes ∧
      (∀ limit, s.settings.maxUploadSize.limit = .ok limit → ¬limit.Below bytes.length) ∧
      ∃ r q, (s.handleFile .working (some ⟨some "a.txt", none, bytes⟩) none none).1 = .ok r ∧
        (s.handleFile .working none (some ⟨some "a.txt", none, Utf8.encode "ip é"⟩) none).1 =
          .ok q ∧ r.SameButSize q ∧ r.fileSize = 9 ∧ q.fileSize = 5 := by
  intro s bytes
  have hbytes : Utf8.Strewn "ip é" bytes :=
    .stray (by decide) <| .char 'i' <| .char 'p' <| .char ' ' <| .stray (by decide) <|
      .stray (by decide) <| .char 'é' <| .stray (by decide) .nil
  have hsize : ∀ limit, s.settings.maxUploadSize.limit = .ok limit →
      ¬limit.Below bytes.length := by
    intro limit hlimit
    rw [← Except.ok.inj hlimit]
    simp [Limit.Below, bytes]
  have hstrewn : Option.or (some ⟨some "a.txt", none, bytes⟩) none =
    (some ⟨some "a.txt", none, bytes⟩ : Option Upload) := rfl
  have hplain : Option.or none (some ⟨some "a.txt", none, Utf8.encode "ip é"⟩) =
    (some ⟨some "a.txt", none, Utf8.encode "ip é"⟩ : Option Upload) := rfl
  obtain ⟨q, hq⟩ : ∃ q, (s.handleFile .working none
    (some ⟨some "a.txt", none, Utf8.encode "ip é"⟩) none).1 = .ok q := ⟨_, rfl⟩
  rcases (handleFile_strewn s .working hbytes hsize hstrewn hplain none).2 with
    ⟨refusal, -, hrefused⟩ | ⟨r, q', hr, hq', hsame, hlarge, hsmall⟩
  · rw [hq] at hrefused
    cases hrefused
  · exact ⟨hbytes, hsize, r, q', hr, hq', hsame, hlarge, hsmall⟩

end Service

/-- An upload that cannot be used, since it has no file name. -/
def Upload.Unnamed (u : Upload) : Prop := u.filename = none ∨ u.filename = some []

instance (u : Upload) : Decidable u.Unnamed := inferInstanceAs (Decidable (_ ∨ _))

/-- Uploads are rejected as absent for want of a name only. -/
theorem Settings.rejectsFile_noFile_iff (s : Settings) (u : Upload) :
    s.RejectsFile (some u) .noFile ↔ u.Unnamed := by
  constructor
  · intro h
    cases h with
    | unnamed hname => exact hname
    | measured _ _ _ h => cases h
  · exact .unnamed

namespace Service

variable (s : Service) (engine : Engine)

theorem handleFile_eq_noFile_iff (file configFile : Option Upload) {u : Upload}
    (hupload : file.or configFile = some u) (password : Option Text) :
    s.handleFile engine file configFile password = (.error .noFile, s) ↔ u.Unnamed := by
  have hrejected := (s.handleFile_failsBehindGates file configFile password).rejected_iff engine
    .noFile (by decide)
  rw [hrejected, hupload, Settings.rejectsFile_noFile_iff]

/-- An unnamed first upload is refused as if nothing had been sent, whatever the second one is. Only
where the second one is of no use either does the answer not depend on the first one. -/
theorem handleFile_unnamed_first {u : Upload} (hu : u.Unnamed) (f : Upload)
    (password : Option Text) :
    s.handleFile engine (some u) (some f) password = (.error .noFile, s) ∧
      (s.handleFile engine (some u) (some f) password =
        s.handleFile engine none (some f) password ↔ f.Unnamed) := by
  have hrefused := (s.handleFile_eq_noFile_iff engine (some u) (some f) rfl password).mpr hu
  refine ⟨hrefused, ?_⟩
  rw [hrefused, eq_comm, s.handleFile_eq_noFile_iff engine none (some f) rfl]

theorem handleFile_unnamed_first_named :
    Upload.Unnamed ⟨some "", none, []⟩ ∧
      ({} : Service).handleFile .working (some ⟨some "", none, []⟩)
        (some ⟨some "a.txt", none, Utf8.encode "interface Gi0/1"⟩) none = (.error .noFile, {}) ∧
      ({} : Service).handleFile .working (some ⟨some "", none, []⟩)
          (some ⟨some "a.txt", none, Utf8.encode "interface Gi0/1"⟩) none ≠
        ({} : Service).handleFile .working none
          (some ⟨some "a.txt", none, Utf8.encode "interface Gi0/1"⟩) none := by
  have hu : Upload.Unnamed ⟨some "", none, []⟩ := .inr rfl
  obtain ⟨hrefused, hiff⟩ := handleFile_unnamed_first {} .working hu
    ⟨some "a.txt", none, Utf8.encode "interface Gi0/1"⟩ none
  exact ⟨hu, hrefused, mt hiff.mp (by decide)⟩

/-- Without the unnamed upload, the other one is answered with a report. -/
theorem handleFile_hidden_by_unnamed :
    ¬∀ (s : Service) (engine : Engine) (u f : Upload) (password : Option Text), u.Unnamed →
      s.handleFile engine (some u) (some f) password =
        s.handleFile engine none (some f) password := by
  intro hall
  have hsame := hall {} .working ⟨some "", none, []⟩
    ⟨some "a.txt", none, Utf8.encode "interface Gi0/1"⟩ none (.inr rfl)
  obtain ⟨r, hr⟩ : ∃ r, (({} : Service).handleFile .working none
    (some ⟨some "a.txt", none, Utf8.encode "interface Gi0/1"⟩) none).1 = .ok r := ⟨_, rfl⟩
  have hboth : (.ok r : Except Refusal FileReport) = .error .noFile :=
    hr.symm.trans (congrArg Prod.fst hsame).symm
  cases hboth

end Service
end ConfigAudit
