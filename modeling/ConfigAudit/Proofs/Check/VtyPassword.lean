import ConfigAudit.Proofs.Check.Credential
import ConfigAudit.Proofs.Text.Words

/-! Passwords of VTY lines. The reader of blocks keeps what follows the keyword, and the check of lines
reads a credential off the line again. Main statement: both mean the same line and the same word, so
that no weak password of a VTY line goes unreported. -/
namespace ConfigAudit.Check

/-- The credential in what is kept as the password of a VTY line: the first word, or the one behind
it where a policy reads behind keywords and the first word is a mark of encryption. -/
def sessionCredential (p : Policy) (password : Text) : Text :=
  if p.keywordCredentials = true ∧ 2 ≤ password.words.length ∧
      isEncryptionType (wordAt password 0) = true then wordAt password 1
  else wordAt password 0

theorem sessionCredential_mem_words (p : Policy) {password : Text} (h : password.words ≠ []) :
    sessionCredential p password ∈ password.words := by
  have hword (k : Nat) (hk : k < password.words.length) :
      wordAt password k ∈ password.words := by
    rw [wordAt, List.getD_eq_getElem?_getD, List.getElem?_eq_getElem hk, Option.getD_some]
    exact List.getElem_mem hk
  unfold sessionCredential
  split_ifs with hmark
  · exact hword 1 hmark.2.1
  · exact hword 0 (List.length_pos_iff.mpr h)

/-- On a line that begins with the keyword, reading the second word and reading behind the keyword
differ in the marks of encryption alone. -/
theorem credential_of_words {afterKeyword : Bool} {t keyword : Text} {others : List Text}
    (ht : t.words = keyword :: others) (hkeyword : isCredentialKeyword keyword = true) :
    credential afterKeyword t =
      if afterKeyword = true ∧ 2 ≤ others.length ∧ isEncryptionType (others.getD 0 []) = true then
        others.getD 1 []
      else others.getD 0 [] := by
  have hfirst : (keyword :: others).dropWhile (!isCredentialKeyword ·) = keyword :: others :=
    List.dropWhile_cons_of_neg (by simp [hkeyword])
  unfold credential wordAt
  rw [ht, hfirst]
  cases afterKeyword with
  | false => simp
  | true => rcases others with _ | ⟨a, _ | ⟨b, rest⟩⟩ <;> simp

/-- What stands behind the keyword is stripped before it is kept, which does not change its words. -/
theorem credential_passwordLine (p : Policy) (rest : Text) :
    credential p.keywordCredentials ("password " ++ rest) = sessionCredential p rest.strip := by
  have hwords : Text.words ("password " ++ rest) = ("password" : Text) :: rest.strip.words := by
    rw [Text.words_strip]
    rfl
  exact credential_of_words hwords rfl

/-- The password that counts is not empty only if a blank stands behind the keyword. -/
theorem exists_eq_passwordLine {line : Text} (h : isPasswordLine line = true)
    (hpassword : Text.strip (line.drop "password".length) ≠ []) :
    ∃ rest : Text, line = "password " ++ rest ∧
      Text.strip (line.drop "password".length) = rest.strip := by
  rw [isPasswordLine, Bool.or_eq_true, decide_eq_true_eq] at h
  rcases h with rfl | hstarts
  · exact absurd rfl hpassword
  · obtain ⟨rest, rfl⟩ := List.isPrefixOf_iff_prefix.mp hstarts
    exact ⟨rest, rfl, rfl⟩

/-- The check judges the credential on the line that a VTY line has its password from. Such a line is
no comment, so it does not matter whether comment lines are passed over. -/
theorem judges_passwordLine (p : Policy) {l : Line} {rest : Text} (hl : l.text = "password " ++ rest)
    (hrest : rest.strip ≠ []) (hmark : '!' ∉ sessionCredential p rest.strip) :
    Judges p l (sessionCredential p rest.strip) where
  unskipped := by
    rintro ⟨-, hcomment⟩
    rw [Line.isComment, hl] at hcomment
    cases hcomment
  named := .inl ⟨rest, hl.symm⟩
  credential_eq := by rw [hl, credential_passwordLine]
  ne_nil := Text.ne_nil_of_mem_words
    (sessionCredential_mem_words p (Text.words_strip_ne_nil hrest))
  unmarked := hmark

/-- No weak password of a VTY line escapes: on a line in the body of the block, the check reports the
credential in it as weak or as too short just if it is, unless it is a placeholder. -/
theorem vtyPassword_reported (p : Policy) (t : Text) {v : VtyLine}
    (hv : v ∈ (Inventory.ofText t).vtyLines) {password : Text} (hpassword : v.password = some password)
    (hne : password ≠ []) (hmark : '!' ∉ sessionCredential p password) :
    ∃ b ∈ Block.all "line vty" t.lines, b.toVtyLine = v ∧ ∃ l ∈ b.bodyIn t,
      (Reports "weak_passwords" p t
          (Finding.weakCredential l.number (sessionCredential p password)).issue ↔
        p.isWeakPassword (sessionCredential p password) p.weakPasswordCaseSensitive = true) ∧
      (Reports "weak_passwords" p t
          (Finding.shortCredential l.number (sessionCredential p password).length).issue ↔
        ((sessionCredential p password).length : Int) < p.minPasswordLength) := by
  obtain ⟨b, hb, rfl⟩ := Inventory.mem_vtyLines_iff.mp hv
  obtain ⟨line, hline, rfl⟩ := Option.map_eq_some_iff.mp hpassword
  obtain ⟨hbody, hkeyword⟩ := Block.last?_eq_some hline
  obtain ⟨rest, rfl, hrest⟩ := exists_eq_passwordLine hkeyword hne
  rw [hrest] at hne hmark ⊢
  obtain ⟨l, hl, htext⟩ := Block.exists_mem_bodyIn hb hbody
  have hmem : l ∈ Line.ofText t := (List.mem_filter.mp hl).1
  have hjudges := judges_passwordLine p htext hne hmark
  exact ⟨b, hb, rfl, l, hl, hjudges.reports_weak_iff hmem, hjudges.reports_short_iff hmem⟩

/-- A marked password in a block is read behind its mark, and is both weak and too short. -/
theorem vtyPassword_reported_marked :
    let p : Policy := { keywordCredentials := true, skipCommentLines := true }
    let t : Text := "line vty 0 4\n password 7 cisco\n!\npassword Xk3!Xk3!"
    ∃ b ∈ Block.all "line vty" t.lines, ∃ l ∈ b.bodyIn t,
      Reports "weak_passwords" p t (Finding.weakCredential l.number "cisco").issue ∧
        Reports "weak_passwords" p t (Finding.shortCredential l.number 5).issue := by
  intro p t
  have hv : ({ range := "0 4", password := some "7 cisco", lineNumber := 1 } : VtyLine) ∈
      (Inventory.ofText t).vtyLines := by decide
  have hcredential : sessionCredential p "7 cisco" = "cisco" := by decide
  have hreported := vtyPassword_reported p t hv rfl (by decide) (by decide)
  rw [hcredential] at hreported
  obtain ⟨b, hb, -, l, hl, hweak, hshort⟩ := hreported
  exact ⟨b, hb, l, hl, hweak.mpr (by decide), hshort.mpr (by decide)⟩

end ConfigAudit.Check
