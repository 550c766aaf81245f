import NodeDeploy.Bootstrap.Certificate
import NodeDeploy.Proofs.Occurrences

/-! # What is extracted from certificates and keys

A payload holds what is asked for if its start marker stands in it and, behind the first one, its end
marker. Then the part from the one to the first of the other is extracted, whatever stands before,
between and after, even if it looks like a marker; the markers may overlap themselves and each other.
To cut the part out by positions of bytes is always possible and gives the same.

* `Pem.Marked` says that a payload has both markers, and `Pem.Encloses` which part they enclose.
* `Pem.between?_eq_some_iff`: the part that is found is the enclosed one.
* `Pem.cutBytes?_utf8`: cutting by bytes.
* `Pem.Wrapped` is a text around a part, and `Pem.Wrapped.encloses` says that the part is found.
* `bundle_extracted` is the result.
-/

namespace NodeDeploy

namespace Pem

/-- The start marker stands in a payload, and the end marker behind the first one. -/
def Marked (start stop payload : List Char) : Prop :=
  ∃ before rest, FirstAt start payload before rest ∧ stop <:+: rest

/-- The part of a payload that stands between the first start marker and the first end marker
behind it. -/
structure Encloses (start stop payload before body after : List Char) : Prop where
  opened : FirstAt start payload before (body ++ stop ++ after)
  closed : FirstAt stop (body ++ stop ++ after) body after

section Between

variable {start stop payload : List Char}

theorem between?_eq_bind : between? start stop payload =
    (Text.cut? start payload).bind fun p => (Text.cut? stop p.2).map (·.1) := by
  rw [between?, Option.bind_eq_bind]
  refine Option.bind_congr fun ⟨before, rest⟩ _ => ?_
  dsimp only
  cases Text.cut? stop rest <;> rfl

/-- **The part that is found is the enclosed one.** -/
theorem between?_eq_some_iff {body : List Char} : between? start stop payload = some body ↔
    ∃ before after, Encloses start stop payload before body after := by
  rw [between?_eq_bind]
  constructor
  · intro h
    obtain ⟨⟨before, rest⟩, hopened, h⟩ := Option.bind_eq_some_iff.1 h
    obtain ⟨⟨body, after⟩, hclosed, rfl⟩ := Option.map_eq_some_iff.1 h
    have hstop := Text.cut?_eq_some_iff.1 hclosed
    obtain rfl := hstop.eq
    exact ⟨before, after, Text.cut?_eq_some_iff.1 hopened, hstop⟩
  · rintro ⟨before, after, h⟩
    rw [Text.cut?_eq_some_iff.2 h.opened, Option.bind_some, Text.cut?_eq_some_iff.2 h.closed,
      Option.map_some]

/-- A part is found exactly in a payload that has both markers. -/
theorem isSome_between?_iff : (between? start stop payload).isSome ↔ Marked start stop payload := by
  rw [Option.isSome_iff_exists]
  constructor
  · rintro ⟨body, h⟩
    obtain ⟨before, after, h⟩ := between?_eq_some_iff.1 h
    exact ⟨before, _, h.opened, body, after, rfl⟩
  · rintro ⟨before, rest, hopened, hstop⟩
    obtain ⟨body, after, hclosed⟩ := Text.exists_firstAt_iff.2 hstop
    obtain rfl := hclosed.eq
    exact ⟨body, between?_eq_some_iff.2 ⟨before, after, hopened, hclosed⟩⟩

/-- What is enclosed is so without what stands before and after it. -/
theorem Encloses.trim {before body after : List Char}
    (h : Encloses start stop payload before body after) :
    Encloses start stop (start ++ body ++ stop) [] body [] where
  opened := ⟨by simp, fun _ _ _ => Nat.zero_le _⟩
  closed := by
    have hclosed : FirstAt stop (body ++ stop ++ after) body ([] ++ after) := h.closed
    simpa using hclosed.of_append

end Between

/-- A part between a start marker and an end marker, with text around it that brings neither marker
forward: no start marker begins before the one, and no end marker between the two. -/
structure Wrapped (start stop : List Char) where
  before : List Char
  body : List Char
  after : List Char
  opened : FirstAt start (before ++ start) before []
  closed : FirstAt stop (body ++ stop) body []

namespace Wrapped

variable {start stop : List Char}

def text (w : Wrapped start stop) : List Char := w.before ++ start ++ w.body ++ stop ++ w.after

/-- **The part of a wrapped text is enclosed.** -/
theorem encloses (w : Wrapped start stop) : Encloses start stop w.text w.before w.body w.after where
  opened := by
    have h := w.opened.append (w.body ++ stop ++ w.after)
    simpa [text] using h
  closed := by simpa using w.closed.append w.after

end Wrapped

/-! ## Cutting by bytes -/

/-- The part between the markers, with them or without, found and cut out by the positions of
bytes. There is no answer if a cut is not possible; the answer is `none` if a marker is missing. -/
def cutBytes? (start stop : List UInt8) (marked : Bool) (payload : List UInt8) :
    Option (Option (List UInt8)) :=
  match Text.find? start payload with
  | none => some none
  | some low =>
    (Text.slice? payload (low + start.length) payload.length).bind fun rest =>
      match Text.find? stop rest with
      | none => some none
      | some offset =>
        let high := low + start.length + offset
        (if marked then Text.slice? payload low (high + stop.length)
        else Text.slice? payload (low + start.length) high).map some

/-- **Cutting by bytes is always possible**, and gives the bytes of what is found by characters. -/
theorem cutBytes?_utf8 {start stop : List Char} (hstart : start ≠ []) (hstop : stop ≠ [])
    (marked : Bool) (payload : List Char) :
    cutBytes? (Text.utf8 start) (Text.utf8 stop) marked (Text.utf8 payload) =
      some ((between? start stop payload).map fun body =>
        Text.utf8 (if marked then start ++ body ++ stop else body)) := by
  have hlength (cs ds : List Char) :
      (Text.utf8 cs).length + (Text.utf8 ds).length = (Text.utf8 (cs ++ ds)).length := by
    rw [Text.utf8_append, List.length_append]
  rw [cutBytes?, Text.find?_utf8 hstart, between?_eq_bind]
  cases hopened : Text.cut? start payload with
  | none => rfl
  | some p =>
    obtain ⟨before, rest⟩ := p
    obtain rfl := Text.cut?_eq_some_imp hopened
    have hrest := Text.slice?_utf8 (before ++ start) rest []
    rw [List.append_nil] at hrest
    simp only [Option.map_some, hlength, hrest, Option.bind_some, Text.find?_utf8 hstop]
    cases hclosed : Text.cut? stop rest with
    | none => rfl
    | some q =>
      obtain ⟨body, after⟩ := q
      obtain rfl := Text.cut?_eq_some_imp hclosed
      have hwith := Text.slice?_utf8 before (start ++ body ++ stop) after
      have hwithout := Text.slice?_utf8 (before ++ start) body (stop ++ after)
      simp only [List.append_assoc] at hwith hwithout
      cases marked <;> simp [hlength, hwith, hwithout]

/-! ## Certificates and keys -/

variable {payload : List Char}

theorem certificate?_eq_some_iff {text : List Char} : certificate? payload = some text ↔
    ∃ before body after, Encloses certificateStart certificateEnd payload before body after ∧
      text = certificateStart ++ body ++ certificateEnd := by
  rw [certificate?, Option.map_eq_some_iff]
  constructor
  · rintro ⟨body, hbody, rfl⟩
    obtain ⟨before, after, h⟩ := between?_eq_some_iff.1 hbody
    exact ⟨before, body, after, h, rfl⟩
  · rintro ⟨before, body, after, h, rfl⟩
    exact ⟨body, between?_eq_some_iff.2 ⟨before, after, h⟩, rfl⟩

theorem key?_eq_some_iff {line : List Char} : key? payload = some line ↔
    ∃ before body after, Encloses keyStart keyEnd payload before body after ∧
      line = body.filter fun c => c ≠ '\r' ∧ c ≠ '\n' := by
  have hbreak : (fun c => !isLineBreak c) = fun c : Char => decide (c ≠ '\r' ∧ c ≠ '\n') := by
    funext c
    simp [isLineBreak]
  rw [key?, Option.map_eq_some_iff, hbreak]
  constructor
  · rintro ⟨body, hbody, rfl⟩
    obtain ⟨before, after, h⟩ := between?_eq_some_iff.1 hbody
    exact ⟨before, body, after, h, rfl⟩
  · rintro ⟨before, body, after, h, rfl⟩
    exact ⟨body, between?_eq_some_iff.2 ⟨before, after, h⟩, rfl⟩

theorem isSome_certificate?_iff :
    (certificate? payload).isSome ↔ Marked certificateStart certificateEnd payload := by
  rw [certificate?, Option.isSome_map, isSome_between?_iff]

theorem isSome_key?_iff : (key? payload).isSome ↔ Marked keyStart keyEnd payload := by
  rw [key?, Option.isSome_map, isSome_between?_iff]

/-- What is extracted as a certificate is extracted from itself. -/
theorem certificate?_idem {text : List Char} (h : certificate? payload = some text) :
    certificate? text = some text := by
  obtain ⟨before, body, after, hencloses, rfl⟩ := certificate?_eq_some_iff.1 h
  exact certificate?_eq_some_iff.2 ⟨[], body, [], hencloses.trim, rfl⟩

end Pem

namespace CertificateBundle

variable {profile authority certificate key : String}

/-- A bundle is put together from the three parts. -/
theorem ofPem_eq_ok_iff {b : CertificateBundle} :
    ofPem profile authority certificate key = .ok b ↔ b.profile = profile ∧
      Pem.certificate? authority.toList = some b.authority.toList ∧
      Pem.certificate? certificate.toList = some b.certificate.toList ∧
      Pem.key? key.toList = some b.key.toList := by
  rw [ofPem]
  rcases Pem.certificate? authority.toList with _ | a
  · simp
  rcases Pem.certificate? certificate.toList with _ | c
  · simp
  rcases Pem.key? key.toList with _ | k
  · simp
  constructor
  · intro h
    obtain rfl := Except.ok.inj h
    simp
  · rintro ⟨rfl, ha, hc, hk⟩
    obtain rfl := Option.some.inj ha
    obtain rfl := Option.some.inj hc
    obtain rfl := Option.some.inj hk
    simp

/-- The error names the first part that is missing. -/
theorem ofPem_eq_error_iff {part : CertificatePart} :
    ofPem profile authority certificate key = .error part ↔ match part with
      | .authority => Pem.certificate? authority.toList = none
      | .certificate => (Pem.certificate? authority.toList).isSome ∧
        Pem.certificate? certificate.toList = none
      | .key => (Pem.certificate? authority.toList).isSome ∧
        (Pem.certificate? certificate.toList).isSome ∧ Pem.key? key.toList = none := by
  rw [ofPem]
  rcases Pem.certificate? authority.toList with _ | a
  · cases part <;> simp
  rcases Pem.certificate? certificate.toList with _ | c
  · cases part <;> simp
  rcases Pem.key? key.toList with _ | k <;> cases part <;> simp

end CertificateBundle

open Pem CertificateBundle in
/-- **What is extracted from certificates and keys.** A bundle is extracted exactly if each payload
has its start marker and, behind the first one, its end marker; otherwise the error names the first
payload that has not. The certificates of the bundle are the parts of the payloads from the first
start marker to the end of the first end marker behind it, and are extracted again from themselves;
its key is the part between the markers without line breaks, all other characters as they were. To
cut the parts out by the positions of bytes is possible in every payload and gives the same. So
whatever text is put around a part, if it brings neither marker forward, the part is extracted. -/
theorem bundle_extracted (profile authority certificate key : String) :
    ((∃ b, ofPem profile authority certificate key = .ok b) ↔
      Marked certificateStart certificateEnd authority.toList ∧
      Marked certificateStart certificateEnd certificate.toList ∧
      Marked keyStart keyEnd key.toList) ∧
    (ofPem profile authority certificate key = .error .authority ↔
      ¬Marked certificateStart certificateEnd authority.toList) ∧
    (ofPem profile authority certificate key = .error .certificate ↔
      Marked certificateStart certificateEnd authority.toList ∧
      ¬Marked certificateStart certificateEnd certificate.toList) ∧
    (ofPem profile authority certificate key = .error .key ↔
      Marked certificateStart certificateEnd authority.toList ∧
      Marked certificateStart certificateEnd certificate.toList ∧
      ¬Marked keyStart keyEnd key.toList) ∧
    (∀ b, ofPem profile authority certificate key = .ok b → b.profile = profile ∧
      (∃ before body after,
        Encloses certificateStart certificateEnd authority.toList before body after ∧
        b.authority.toList = certificateStart ++ body ++ certificateEnd) ∧
      (∃ before body after,
        Encloses certificateStart certificateEnd certificate.toList before body after ∧
        b.certificate.toList = certificateStart ++ body ++ certificateEnd) ∧
      (∃ before body after, Encloses keyStart keyEnd key.toList before body after ∧
        b.key.toList = body.filter fun c => c ≠ '\r' ∧ c ≠ '\n') ∧
      ofPem profile b.authority b.certificate key = .ok b) ∧
    (∀ payload : String,
      cutBytes? (Text.utf8 certificateStart) (Text.utf8 certificateEnd) true
        (stringBytes payload) = some ((certificate? payload.toList).map Text.utf8) ∧
      cutBytes? (Text.utf8 keyStart) (Text.utf8 keyEnd) false (stringBytes payload) =
        some ((between? keyStart keyEnd payload.toList).map Text.utf8)) ∧
    ∀ (a c : Wrapped certificateStart certificateEnd) (k : Wrapped keyStart keyEnd),
      ofPem profile (String.ofList a.text) (String.ofList c.text) (String.ofList k.text) =
        .ok ⟨profile, String.ofList (certificateStart ++ a.body ++ certificateEnd),
          String.ofList (certificateStart ++ c.body ++ certificateEnd),
          String.ofList (k.body.filter fun c => c ≠ '\r' ∧ c ≠ '\n')⟩ := by
  simp only [← isSome_certificate?_iff, ← isSome_key?_iff]
  refine ⟨?_, ?_, ?_, ?_, fun b hb => ?_, fun payload => ⟨?_, ?_⟩, fun a c k => ?_⟩
  · constructor
    · rintro ⟨b, hb⟩
      obtain ⟨-, ha, hc, hk⟩ := ofPem_eq_ok_iff.1 hb
      exact ⟨Option.isSome_of_eq_some ha, Option.isSome_of_eq_some hc,
        Option.isSome_of_eq_some hk⟩
    · rintro ⟨ha, hc, hk⟩
      obtain ⟨a, ha⟩ := Option.isSome_iff_exists.1 ha
      obtain ⟨c, hc⟩ := Option.isSome_iff_exists.1 hc
      obtain ⟨k, hk⟩ := Option.isSome_iff_exists.1 hk
      exact ⟨⟨profile, .ofList a, .ofList c, .ofList k⟩,
        ofPem_eq_ok_iff.2 ⟨rfl, by simpa using ha, by simpa using hc, by simpa using hk⟩⟩
  · rw [ofPem_eq_error_iff]
    simp
  · rw [ofPem_eq_error_iff]
    simp
  · rw [ofPem_eq_error_iff]
    simp
  · obtain ⟨hprofile, hauthority, hcertificate, hkey⟩ := ofPem_eq_ok_iff.1 hb
    exact ⟨hprofile, certificate?_eq_some_iff.1 hauthority, certificate?_eq_some_iff.1 hcertificate,
      key?_eq_some_iff.1 hkey, ofPem_eq_ok_iff.2
        ⟨hprofile, certificate?_idem hauthority, certificate?_idem hcertificate, hkey⟩⟩
  · rw [stringBytes, cutBytes?_utf8 (by decide) (by decide), certificate?, Option.map_map]
    rfl
  · exact cutBytes?_utf8 (by decide) (by decide) false payload.toList
  · refine ofPem_eq_ok_iff.2 ⟨rfl, ?_, ?_, ?_⟩ <;> simp only [String.toList_ofList]
    · exact certificate?_eq_some_iff.2 ⟨_, _, _, a.encloses, rfl⟩
    · exact certificate?_eq_some_iff.2 ⟨_, _, _, c.encloses, rfl⟩
    · exact key?_eq_some_iff.2 ⟨_, _, _, k.encloses, rfl⟩

namespace Sample

/-- A certificate whose first marker runs into dashes before it, and which has a start marker in it
and an end marker behind it. -/
def dashed : Pem.Wrapped Pem.certificateStart Pem.certificateEnd where
  before := "é\n-----".toList
  body := "\nü-----BEGIN CERTIFICATE-----\n-----END".toList
  after := "\n-----END CERTIFICATE-----".toList
  opened := Text.cut?_eq_some_iff.1 (by decide +kernel)
  closed := Text.cut?_eq_some_iff.1 (by decide +kernel)

def lines : Pem.Wrapped Pem.keyStart Pem.keyEnd where
  before := []
  body := "\r\nMIIE\r\nx9yZ\n".toList
  after := "\n".toList
  opened := Text.cut?_eq_some_iff.1 (by decide +kernel)
  closed := Text.cut?_eq_some_iff.1 (by decide +kernel)

def extracted : CertificateBundle where
  profile := "k8s-profile"
  authority := "-----BEGIN CERTIFICATE-----\nü-----BEGIN CERTIFICATE-----\n-----END" ++
    "-----END CERTIFICATE-----"
  certificate := "-----BEGIN CERTIFICATE-----\nü-----BEGIN CERTIFICATE-----\n-----END" ++
    "-----END CERTIFICATE-----"
  key := "MIIEx9yZ"

end Sample

/-- Dashes and markers around and inside a certificate make no difference, nor do line breaks in a
key, and the certificates are extracted again from themselves. -/
theorem bundle_extracted_sample :
    CertificateBundle.ofPem "k8s-profile" (.ofList Sample.dashed.text)
      (.ofList Sample.dashed.text) (.ofList Sample.lines.text) = .ok Sample.extracted ∧
    CertificateBundle.ofPem "k8s-profile" Sample.extracted.authority Sample.extracted.certificate
      (.ofList Sample.lines.text) = .ok Sample.extracted := by
  obtain ⟨-, -, -, -, hbundle, -, hwrapped⟩ := bundle_extracted "k8s-profile"
    (.ofList Sample.dashed.text) (.ofList Sample.dashed.text) (.ofList Sample.lines.text)
  have hextracted := hwrapped Sample.dashed Sample.dashed Sample.lines
  exact ⟨hextracted, (hbundle Sample.extracted hextracted).2.2.2.2⟩

end NodeDeploy
