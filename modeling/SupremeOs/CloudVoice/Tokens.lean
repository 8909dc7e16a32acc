import SupremeOs.DomainModel.JsonReader
import SupremeOs.Support.Base64Url
import SupremeOs.Support.Utf16

/-!
# Signed texts

A signed text is a JSON payload as base64url, a point, and the signature of
what stands before the point.  Access tokens, refresh tokens and linking tickets
are texts of this kind, signed with one key.

The digest of a text under the key is a parameter.
-/

namespace SupremeOs.CloudVoice

open DomainModel Support

/-- `Buffer.from(JSON.stringify(payload)).toString("base64url")`. -/
def bodyOf (payload : Json) : List Char :=
  Base64Url.encode (payload.stringify.flatMap String.utf8EncodeChar)

variable (hmac : String → List UInt8)

/-- `createHmac("sha256", secret).update(body).digest("base64url")`. -/
def signatureOf (body : List Char) : List Char :=
  Base64Url.encode (hmac (String.ofList body))

def signText (payload : Json) : String :=
  String.ofList (bodyOf payload ++ '.' :: signatureOf hmac (bodyOf payload))

/-- What stands before the first point of a text and what follows it. -/
def splitText (token : String) : Option (List Char × List Char) :=
  match token.toList.dropWhile (· != '.') with
  | [] => none
  | _ :: signature => some (token.toList.takeWhile (· != '.'), signature)

/-- The signature of the text is the one that its body has under the key. -/
def Authentic (token : String) : Prop :=
  ∃ parts ∈ splitText token, parts.2 = signatureOf hmac parts.1

instance (hmac : String → List UInt8) (token : String) : Decidable (Authentic hmac token) :=
  decidable_of_iff ((splitText token).any fun parts =>
      decide (parts.2 = signatureOf hmac parts.1))
    (by simp [Authentic, Option.any_eq_true])

/-- `JSON.parse(Buffer.from(body, "base64url").toString("utf8"))`. -/
def payloadOf (body : List Char) : Option Json :=
  let bytes := Base64Url.decode body
  Json.parse (Utf16.readChars bytes.length bytes)

def openText (token : String) : Option Json :=
  match splitText token with
  | some (body, signature) =>
    if signature = signatureOf hmac body then payloadOf body else none
  | none => none

section Written

variable {hmac : String → List UInt8}

theorem payloadOf_bodyOf (payload : Json) : payloadOf (bodyOf payload) = some payload := by
  rw [payloadOf, bodyOf, Base64Url.decode_encode]
  simp only [Utf16.readChars_utf8 _ (Nat.le_refl _), Json.parse_stringify]

theorem splitText_signText (payload : Json) : splitText (signText hmac payload) =
      some (bodyOf payload, signatureOf hmac (bodyOf payload)) := by
  have plain : ∀ character ∈ bodyOf payload, (character != '.') = true := by
    intro character member
    rw [bne_iff_ne]
    rintro rfl
    exact Base64Url.not_mem_encode (by decide +kernel) member
  rw [splitText, signText, String.toList_ofList, List.dropWhile_append_of_pos plain,
    List.takeWhile_append_of_pos plain]
  simp

theorem openText_signText (payload : Json) :
    openText hmac (signText hmac payload) = some payload := by
  rw [openText, splitText_signText]
  simp only [if_true, payloadOf_bodyOf]

theorem signText_injective {left right : Json}
    (same : signText hmac left = signText hmac right) : left = right := by
  have opened := @openText_signText hmac left
  rw [same, openText_signText, Option.some.injEq] at opened
  exact opened.symm

theorem authentic_of_openText {token : String} {payload : Json}
    (opened : openText hmac token = some payload) : Authentic hmac token := by
  unfold openText at opened
  split at opened
  · rename_i body signature parts
    split at opened
    · rename_i same
      exact ⟨_, parts, same⟩
    · cases opened
  · cases opened

end Written

end SupremeOs.CloudVoice
