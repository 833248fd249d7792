import RequestParams.Proofs.Json.StringText
import RequestParams.Validator

/-!
# Bodies of failures

The default body of a failure is an object with one member, the message under the configured key.
Key and message may hold any characters: the text of a client, which a message shows in quotes, is
written a second time as part of a JSON string. Whoever reads the bytes that are sent finds the one
member with the message as it was.
-/

namespace RequestParams.Validator

/-- The bytes of a default body are those of a document, and it is the object of one member, the
message under the key: for each failure, and for any text in place of its message. -/
theorem default_body_reads_back (c : Config) :
    (∀ e : ValidationError,
      Json.ofBytes? ((⟨c, none⟩ : Validator).formatError e).bytes =
        some (.object [(c.errorKey, .string e.message)])) ∧
    ∀ (message : String) (status : UInt16),
      Json.ofBytes? (⟨message, status, (defaultBody c message).1⟩ : Response).bytes =
        some (.object [(c.errorKey, .string message)]) := by
  have reads_back : ∀ (message : String) (status : UInt16),
      Json.ofBytes? (⟨message, status, (defaultBody c message).1⟩ : Response).bytes =
        some (.object [(c.errorKey, .string message)]) := by
    intro message status
    rw [Response.bytes, Response.text, Json.ofBytes?_toUTF8]
    exact Json.ofString?_compact_single c.errorKey message
  exact ⟨fun e => reads_back e.message c.failureStatus, reads_back⟩

end RequestParams.Validator
