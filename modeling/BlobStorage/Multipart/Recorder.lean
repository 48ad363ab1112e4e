import BlobStorage.Multipart
import BlobStorage.Report

/-!
A client that keeps what it is sent, for looking at an upload in parts without a provider. It fails
where it is told to; what it was asked for before it failed stays recorded.
-/
namespace BlobStorage.Multipart

structure Recorder where
  /-- The parts that were sent, with their bytes. -/
  parts : List (Int × Content) := []
  /-- All else that was asked for, in order. -/
  events : List Value := []
  deriving Repr

namespace Recorder

def note (event : List Value) : Action Recorder Unit :=
  modify fun r => { r with events := r.events ++ [.list event] }

def sorted (r : Recorder) : List (Int × Content) :=
  r.parts.mergeSort fun a b => decide (a.1 ≤ b.1)

def receiptValue (p : PartReceipt) : Value :=
  .list [.whole p.number, p.etag.value, .whole p.size]

/-- A client that fails at a call with what is planned for it under its name. -/
def client (planned : String → Option Failure) : Client Recorder :=
  let run (name : String) : Action Recorder Unit :=
    match planned name with
    | some f => throw f
    | none => return ()
  { initiate := fun request => do
      note [.text "initiate", .text request.key]
      run "initiate"
      return { bucket := "b", key := "k", id := .known "mpu-id" }
    sendPart := fun _ p => do
      run ("part" ++ toString p.number)
      let data ← Action.ofAmbient p.data
      modify fun r => { r with parts := r.parts ++ [(p.number, data)] }
      return { number := p.number, etag := .known ("e" ++ toString p.number),
               size := Int.ofNat data.length }
    complete := fun token receipts => do
      let listed := receipts.mergeSort fun a b => decide (a.number ≤ b.number)
      note [.text "complete", token.id.value, .ofList receiptValue listed]
      run "complete"
      return { etag := some (.known "mpu-etag"), version := some (.known "v1") }
    abort := fun token => do
      note [.text "abort", token.id.value]
      run "abort" }

end Recorder
end BlobStorage.Multipart
