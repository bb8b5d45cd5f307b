/-
# Refusals

The API server gives the reason of a refusal in a document of its own form. A document of another
form is shown as it is.
-/
import PortForward.Json.Shape

namespace PortForward.Cluster

/-- The server's words about a refusal. -/
structure Refusal where
  message : String := ""
  reason : String := ""
deriving DecidableEq, Repr

namespace Refusal

/-- A cause of a refusal. -/
def causeShape : Shape := .row "struct StatusCause" [
  ("reason", .text), ("message", .text), ("field", .text)]

/-- What a refusal is about. -/
def detailsShape : Shape := .row "struct StatusDetails" [
  ("name", .text), ("group", .text), ("kind", .text), ("uid", .text),
  ("causes", .list causeShape), ("retryAfterSeconds", .nat32)]

/-- What the server notes about its answer. -/
def metadataShape : Shape := .record "ListMeta" [
  ("continue", .nullable .text), ("remainingItemCount", .nullable .int64),
  ("resourceVersion", .nullable .text), ("selfLink", .nullable .text)]

/-- A refusal. -/
def shape : Shape := .row "struct Status" [
  ("status", .nullable (.word ["Success", "Failure"] "enum StatusSummary")), ("code", .nat16),
  ("message", .text), ("metadata", .nullable metadataShape), ("reason", .text),
  ("details", .nullable detailsShape)]

/-- The text of a member of a refusal, by its key, or by its place if the members are in a row. -/
def member (j : Json) (key : String) (place : Nat) : String :=
  match j with
  | .array items => ((items[place]?).bind Json.string?).getD ""
  | j => ((j.member? key).bind Json.string?).getD ""

/-- The server's words in a document. -/
def ofJson (j : Json) : Refusal := ⟨member j "message" 2, member j "reason" 4⟩

/-- Reads the server's words about a refusal. -/
def read (j : Json) : Except Fault Refusal := shape.read ofJson j

/-- What stands for the server's words if there are none: the answer itself. -/
def unread (text : String) : Refusal := ⟨text, "Failed to parse error data"⟩

end Refusal
end PortForward.Cluster
