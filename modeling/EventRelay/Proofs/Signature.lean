import EventRelay.Proofs.Digest.Base64
import EventRelay.Proofs.Digest.Hex
import EventRelay.Proofs.Text.Trim
import EventRelay.Signature

namespace EventRelay.Signature

open Digest Text

variable {body : List UInt8} {signature secret callbackUrl : String} {text : List Char}
  {bytes : List UInt8}

/-- Which signatures of a call pass, when there is a secret. -/
structure Exact (body : List UInt8) (secret callbackUrl : String) : Prop where
  /-- Blanks around it apart, a Trello signature is the right one or is refused. -/
  trello_iff : ∀ signature, trelloAccepts body signature secret callbackUrl = true ↔
    trimmed signature = trello body secret callbackUrl
  /-- No other text spells the digest. -/
  trello_spelled : ∀ text : String,
    Base64.Spells text.toList (boardDigest body secret callbackUrl) ↔
      text = trello body secret callbackUrl
  /-- Cut off or drawn out texts are refused, and those with other characters. -/
  trello_refused : ∀ signature,
    ((trimmed signature).length ≠ 28 ∨ ∃ c ∈ (trimmed signature).toList,
      isAsciiAlphanumeric c = false ∧ c ≠ '+' ∧ c ≠ '/' ∧ c ≠ '=') →
        trelloAccepts body signature secret callbackUrl = false
  trello_own : trelloAccepts body (trello body secret callbackUrl) secret callbackUrl = true
  /-- The name of the hash is read as it stands; the digits after it may be of either case. -/
  github_iff : ∀ signature, githubAccepts body signature secret = true ↔
    ∃ digits : List Char, (trimmed signature).toList = "sha256=".toList ++ digits ∧
      digits.length = 64 ∧ (∀ c ∈ digits, Hex.IsDigit c) ∧
      digits.map asciiLower = Hex.encode (repositoryDigest body secret)
  github_refused : ∀ signature,
    ((trimmed signature).length ≠ 71 ∨ ∃ c ∈ (trimmed signature).toList.drop 7, ¬ Hex.IsDigit c) →
      githubAccepts body signature secret = false
  github_own : githubAccepts body (github body secret) secret = true

theorem trelloAccepts_iff (hsecret : secret ≠ "") :
    trelloAccepts body signature secret callbackUrl = true ↔
      trimmed signature = trello body secret callbackUrl := by
  rw [trelloAccepts, Bool.or_eq_true, beq_iff_eq, or_iff_right hsecret, Option.any_eq_true]
  simp only [beq_iff_eq, exists_eq_right]
  rw [Base64.decode?_eq_some_iff, trimmed, trello, String.ofList_inj]

theorem length_trello : (trello body secret callbackUrl).length = 28 := by
  have hlength : (boardDigest body secret callbackUrl).length = 20 := Sha1.length_digest _
  rw [trello, String.length_ofList, (Base64.spells_encode _).length_eq, hlength]

theorem forall_mem_trello : ∀ c ∈ (trello body secret callbackUrl).toList,
    isAsciiAlphanumeric c = true ∨ c = '+' ∨ c = '/' ∨ c = '=' := by
  intro c hc
  rw [trello, String.toList_ofList] at hc
  obtain ⟨n, hvalue⟩ | hequals := (Base64.spells_encode _).isDigit_or_eq c hc
  · have hdigit := Base64.isDigit_of_value? hvalue
    tauto
  · exact .inr (.inr (.inr hequals))

theorem bare_trello : Bare (trello body secret callbackUrl).toList := by
  apply bare_of_forall
  intro c hc
  obtain hdigit | rfl | rfl | rfl := forall_mem_trello c hc
  · exact isBlank_of_isAsciiAlphanumeric hdigit
  all_goals decide

theorem spelledDigest?_eq_some_iff :
    spelledDigest? text = some bytes ↔
      ∃ digits, text = scheme ++ digits ∧ digits.map asciiLower = Hex.encode bytes := by
  rw [spelledDigest?, Option.bind_eq_some_iff]
  apply exists_congr
  intro digits
  rw [List.isPrefixOf?_eq_some_iff_append_eq, Hex.decode?_eq_some_iff, eq_comm]

theorem githubAccepts_iff (hsecret : secret ≠ "") :
    githubAccepts body signature secret = true ↔
      ∃ digits : List Char, (trimmed signature).toList = scheme ++ digits ∧
        digits.map asciiLower = Hex.encode (repositoryDigest body secret) := by
  rw [githubAccepts, Bool.or_eq_true, beq_iff_eq, or_iff_right hsecret, Option.any_eq_true]
  simp only [beq_iff_eq, exists_eq_right]
  rw [spelledDigest?_eq_some_iff, trimmed, String.toList_ofList]

theorem length_of_map_eq_encode {digits : List Char}
    (hdigits : digits.map asciiLower = Hex.encode (repositoryDigest body secret)) :
    digits.length = 64 := by
  have hlength : (repositoryDigest body secret).length = 32 := Sha256.length_digest _
  rw [← List.length_map asciiLower, hdigits, Hex.length_encode, hlength]

theorem bare_github : Bare (github body secret).toList := by
  apply bare_of_forall
  have hscheme : scheme.all (fun c => !isBlank c) = true := by decide
  rw [github, String.toList_ofList, List.forall_mem_append]
  refine ⟨by simpa using hscheme, fun c hc => ?_⟩
  obtain ⟨n, hn, rfl⟩ := Hex.exists_digit_of_mem_encode hc
  exact Hex.isBlank_digit hn

/-- A signature passes only if it is that of the call, spelled as the source spells it. -/
theorem accepts_exact (body : List UInt8) (callbackUrl : String) (hsecret : secret ≠ "") :
    Exact body secret callbackUrl where
  trello_iff signature := trelloAccepts_iff hsecret
  trello_spelled text := by
    rw [Base64.spells_iff, trello, ← String.toList_inj, String.toList_ofList]
  trello_refused := by
    intro signature hrefused
    rw [Bool.eq_false_iff]
    intro haccepts
    rw [(trelloAccepts_iff hsecret).1 haccepts, length_trello] at hrefused
    obtain hlength | ⟨c, hc, hother⟩ := hrefused
    · exact hlength rfl
    · have hdigit := forall_mem_trello c hc
      simp_all
  trello_own := by
    rw [trelloAccepts_iff hsecret, trimmed, bare_trello.trim_eq, String.ofList_toList]
  github_iff := by
    intro signature
    rw [githubAccepts_iff hsecret]
    apply exists_congr
    intro digits
    have hscheme : "sha256=".toList = scheme := by decide
    rw [hscheme]
    constructor
    · rintro ⟨hsignature, hdigits⟩
      exact ⟨hsignature, length_of_map_eq_encode hdigits, Hex.isDigit_of_map_eq_encode hdigits, hdigits⟩
    · rintro ⟨hsignature, -, -, hdigits⟩
      exact ⟨hsignature, hdigits⟩
  github_refused := by
    intro signature hrefused
    rw [Bool.eq_false_iff]
    intro haccepts
    obtain ⟨digits, hsignature, hdigits⟩ := (githubAccepts_iff hsecret).1 haccepts
    have hscheme : scheme.length = 7 := rfl
    rw [← String.length_toList, hsignature, List.length_append, hscheme,
      length_of_map_eq_encode hdigits, List.drop_append_of_le_length hscheme.ge] at hrefused
    obtain hlength | ⟨c, hc, hother⟩ := hrefused
    · exact hlength rfl
    · exact hother (Hex.isDigit_of_map_eq_encode hdigits c hc)
  github_own := by
    rw [githubAccepts_iff hsecret, trimmed, bare_github.trim_eq, String.ofList_toList]
    exact ⟨_, String.toList_ofList, Hex.map_asciiLower_encode _⟩

/-- A GitHub signature in capitals between blanks passes; as a Trello signature it is too long. -/
theorem accepts_exact_of_capitals :
    let body := Utf8.encode "what do ya want for nothing?".toList
    let signature := "\tsha256=5BDCC146BF60754E6A042426089575C75A003F089D2739839DEC58B964EC3843 "
    "Jefe" ≠ "" ∧ githubAccepts body signature "Jefe" = true ∧
      trelloAccepts body signature "Jefe" "" = false := by
  intro body signature
  have hsecret : "Jefe" ≠ "" := by decide
  have hexact : Exact body "Jefe" "" := accepts_exact body "" hsecret
  let digits := "5BDCC146BF60754E6A042426089575C75A003F089D2739839DEC58B964EC3843".toList
  have hsignature : (trimmed signature).toList = "sha256=".toList ++ digits := by decide
  have hdigits : digits.map asciiLower = Hex.encode (repositoryDigest body "Jefe") := by
    decide +kernel
  refine ⟨hsecret, (hexact.github_iff _).2 ⟨digits, hsignature, by decide, ?_, hdigits⟩, ?_⟩
  · exact Hex.isDigit_of_map_eq_encode hdigits
  · exact hexact.trello_refused _ (.inl (by decide))

end EventRelay.Signature
