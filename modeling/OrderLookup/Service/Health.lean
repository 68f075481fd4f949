import OrderLookup.Json.Shape

/-!
# Small documents of the service

The report of the health check, and the body that comes with an error status.
-/

namespace OrderLookup.Service

open Json Codec

structure Health where
  status : String
  timestamp : Option String
  service : Option String
  deriving DecidableEq

def Health.shape : Shape Health where
  name := "HealthStatus"
  blank := ⟨"", none, none⟩
  members := [
    text.member "status" false (·.status) fun v h => { h with status := v },
    (nullable text).member "timestamp" true (·.timestamp) fun v h => { h with timestamp := v },
    (nullable text).member "service" true (·.service) fun v h => { h with service := v }]

def Health.decode (document : List UInt8) : Except Failure Health :=
  Health.shape.codec.decode document

structure Complaint where
  message : Option String
  deriving DecidableEq

def Complaint.shape : Shape Complaint where
  name := "ErrorBody"
  blank := ⟨none⟩
  members := [
    (nullable text).member "message" true (·.message) fun v c => { c with message := v }]

/-- The message in the body of an answer with an error status, or a general one if the body has
none. -/
def complaintMessage (body : List UInt8) : String :=
  match Complaint.shape.codec.decode body with
  | .ok ⟨some message⟩ => if message.isEmpty then "Server error" else message
  | _ => "Server error"

end OrderLookup.Service
