import ConfigAudit.Proofs.Service.Gates
import ConfigAudit.Proofs.Text.Lowercase
import ConfigAudit.Proofs.Text.Utf8

/-! Sending a configuration as a text and sending it as a file in UTF-8 come to the same. -/
namespace ConfigAudit

theorem Settings.isTextFile_of_endsWith {name : Text} (h : name.endsWith ".txt" = true)
    (contentType : Option Text) : isTextFile name contentType = true := by
  have hlower : (Text.lowercase name).endsWith ".txt" = true :=
    Text.endsWith_lowercase (fun _ => rfl) h
  rw [isTextFile, hlower, Bool.true_or]

theorem Text.ne_nil_of_endsWith {t ending : Text} (h : t.endsWith ending = true)
    (hending : ending ≠ []) : t ≠ [] := by
  rintro rfl
  exact hending (List.suffix_nil.mp (List.isSuffixOf_iff_suffix.mp h))

/-- Of a file in UTF-8, the text is what the gates look at. -/
theorem Settings.acceptFile_encode_iff (s : Settings) {name : Text}
    (hname : name.endsWith ".txt" = true) (contentType : Option Text) (t : Text)
    (f : AcceptedFile) :
    s.acceptFile (some ⟨some name, contentType, Utf8.encode t⟩) = .ok f ↔
      s.Admits (Utf8.encode t).length t ∧ f = ⟨name, (Utf8.encode t).length, t⟩ := by
  rw [acceptFile_eq_ok_iff]
  constructor
  · rintro ⟨u, name', hu, hname', -, -, hadmits, hf⟩
    obtain rfl := Option.some.inj hu
    obtain rfl := Option.some.inj hname'
    rw [Utf8.decodeLossy_encode] at hadmits hf
    exact ⟨hadmits, hf⟩
  · rintro ⟨hadmits, hf⟩
    refine ⟨_, name, rfl, rfl, Text.ne_nil_of_endsWith hname (by decide),
      isTextFile_of_endsWith hname contentType, ?_, ?_⟩
    · rwa [Utf8.decodeLossy_encode]
    · rw [Utf8.decodeLossy_encode, hf]

namespace Service

/-- A text is answered with a report exactly if a text file that holds it in UTF-8 is, and both
reports have the same analysis. -/
theorem handleText_agrees_handleFile (s : Service) (engine : Engine) (t : Text)
    (password : Option Text) {name : Text} (hname : name.endsWith ".txt" = true)
    (contentType : Option Text) {file configFile : Option Upload}
    (hupload : file.or configFile = some ⟨some name, contentType, Utf8.encode t⟩) :
    ((∃ r, (s.handleText engine ⟨t, password⟩).1 = .ok r) ↔
      ∃ q, (s.handleFile engine file configFile password).1 = .ok q) ∧
    ∀ r q, (s.handleText engine ⟨t, password⟩).1 = .ok r →
      (s.handleFile engine file configFile password).1 = .ok q →
      r.rating = q.rating ∧ r.analysis = q.analysis ∧ r.textLength = t.length ∧
        q.fileSize = (String.ofList t).utf8ByteSize ∧ q.filename = name := by
  simp only [handleText_eq_ok_iff, handleFile_eq_ok_iff, hupload,
    Settings.acceptFile_encode_iff _ hname]
  constructor
  · constructor
    · rintro ⟨-, hadmits, a, ha, -⟩
      exact ⟨_, _, ⟨hadmits, rfl⟩, a, ha, rfl⟩
    · rintro ⟨-, -, ⟨hadmits, rfl⟩, a, ha, -⟩
      exact ⟨_, hadmits, a, ha, rfl⟩
  · rintro r q ⟨-, a, ha, rfl⟩ ⟨-, ⟨-, rfl⟩, b, hb, rfl⟩
    obtain rfl : a = b := Option.some.inj (ha.symm.trans hb)
    exact ⟨rfl, rfl, rfl, Utf8.encode_length t, rfl⟩

theorem handleText_agrees_handleFile_multibyte :
    Text.endsWith "réseau.txt" ".txt" = true ∧
    ∃ r q, (({} : Service).handleText .working ⟨"interface é€😀", some "cisco"⟩).1 = .ok r ∧
      (({} : Service).handleFile .working none
        (some ⟨some "réseau.txt", none, Utf8.encode "interface é€😀"⟩) (some "cisco")).1 = .ok q ∧
      r.analysis = q.analysis ∧ r.textLength = 13 ∧ q.fileSize = 19 := by
  have hname : Text.endsWith "réseau.txt" ".txt" = true := by decide
  have hupload : Option.or none (some ⟨some "réseau.txt", none, Utf8.encode "interface é€😀"⟩) =
    some (⟨some "réseau.txt", none, Utf8.encode "interface é€😀"⟩ : Upload) := rfl
  have hagrees := handleText_agrees_handleFile {} .working "interface é€😀" (some "cisco") hname none
    hupload
  obtain ⟨r, hr⟩ : ∃ r, (({} : Service).handleText .working
    ⟨"interface é€😀", some "cisco"⟩).1 = .ok r := ⟨_, rfl⟩
  obtain ⟨q, hq⟩ := hagrees.1.mp ⟨r, hr⟩
  obtain ⟨-, hanalysis, hlength, hsize, -⟩ := hagrees.2 r q hr hq
  exact ⟨hname, r, q, hr, hq, hanalysis, hlength, hsize⟩

end Service
end ConfigAudit
