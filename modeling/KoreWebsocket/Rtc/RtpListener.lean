import KoreWebsocket.Lib.Checked
import KoreWebsocket.Lib.Table
import KoreWebsocket.Rtc.RtpParameters

/-!
# The RTP listener (`RTC::RtpListener`, `mediasoup_1/soup`)

The three tables that say which receiver a packet is for. Receivers are numbered, and a receiver's
number stands for the pointer to it. A thrown `MediaSoupError` is its text. An exception does not undo
what was done before it, so `addRtpReceiver` returns the listener in both cases.
-/

namespace KoreWebsocket.Rtc

/-- `class RtpListener`. -/
structure RtpListener where
  ssrcTable : Table UInt32 Nat := ∅
  muxIdTable : Table String Nat := ∅
  ptTable : Table UInt8 Nat := ∅

/-- `HasSsrc`, `HasMuxId` and `HasPayloadType`: the key is there, for another receiver. -/
def hasOther {κ : Type} [DecidableEq κ] (t : Table κ Nat) (key : κ) (rtpReceiver : Nat) : Bool :=
  match t.find? key with
  | none => false
  | some existing => existing ≠ rtpReceiver

/-- Keys are added to a table one by one, up to the first that another receiver has: the table, and
that key. -/
def addKeys {κ : Type} [DecidableEq κ] (rtpReceiver : Nat) :
    List κ → Table κ Nat → Table κ Nat × Option κ
  | [], t => (t, none)
  | key :: keys, t =>
      if hasOther t key rtpReceiver then (t, some key)
      else addKeys rtpReceiver keys (t.insert key rtpReceiver)

/-- The SSRCs that an encoding declares, in the order in which they are added. -/
def RtpEncodingParameters.ssrcs (encoding : RtpEncodingParameters) : List UInt32 :=
  [encoding.ssrc, encoding.rtx.ssrc, encoding.fec.ssrc].filter (· ≠ 0)

/-- An SSRC of the encoding is not given. -/
def RtpEncodingParameters.lacksSsrc (encoding : RtpEncodingParameters) : Bool :=
  encoding.ssrc = 0 || (encoding.hasRtx && encoding.rtx.ssrc = 0) ||
    (encoding.hasFec && encoding.fec.ssrc = 0)

namespace RtpParameters

variable (p : RtpParameters)

/-- The SSRCs that are added to `ssrcTable`. -/
def ssrcs : List UInt32 := p.encodings.flatMap (·.ssrcs)

/-- The key that is added to `muxIdTable`, if there is one. -/
def muxIds : List String := if p.muxId = "" then [] else [p.muxId]

/-- The keys that are added to `ptTable`: the codecs', if not all the SSRCs are given. -/
def payloadTypes : List UInt8 :=
  if p.encodings.any (·.lacksSsrc) then p.codecs.map (·.payloadType) else []

end RtpParameters

namespace RtpListener

variable (l : RtpListener)

/-- `RtpListener::RemoveRtpReceiver`. -/
def removeRtpReceiver (rtpReceiver : Nat) : RtpListener where
  ssrcTable := l.ssrcTable.filter fun _ existing => existing ≠ rtpReceiver
  muxIdTable := l.muxIdTable.filter fun _ existing => existing ≠ rtpReceiver
  ptTable := l.ptTable.filter fun _ existing => existing ≠ rtpReceiver

/-- `RtpListener::RollbackRtpReceiver`. -/
def rollbackRtpReceiver (rtpReceiver : Nat) (previousSsrcs : List UInt32) (previousMuxId : String)
    (previousPayloadTypes : List UInt8) : RtpListener where
  ssrcTable := previousSsrcs.foldl (fun t ssrc => t.insert ssrc rtpReceiver) l.ssrcTable
  muxIdTable :=
    if previousMuxId = "" then l.muxIdTable else l.muxIdTable.insert previousMuxId rtpReceiver
  ptTable := previousPayloadTypes.foldl (fun t pt => t.insert pt rtpReceiver) l.ptTable

/-- `RtpListener::AddRtpReceiver` of a receiver with these parameters: the listener afterwards, and the
error if it throws. -/
def addRtpReceiver (rtpReceiver : Nat) (p : RtpParameters) : RtpListener × Option String :=
  let previousSsrcs := l.ssrcTable.keysWhere (· = rtpReceiver)
  let previousMuxId := ((l.muxIdTable.keysWhere (· = rtpReceiver)).head?).getD ""
  let previousPayloadTypes := l.ptTable.keysWhere (· = rtpReceiver)
  let rollback := fun l : RtpListener =>
    (l.removeRtpReceiver rtpReceiver).rollbackRtpReceiver rtpReceiver previousSsrcs previousMuxId
      previousPayloadTypes
  let l := l.removeRtpReceiver rtpReceiver
  match addKeys rtpReceiver p.ssrcs l.ssrcTable with
  | (ssrcTable, some ssrc) =>
      (rollback { l with ssrcTable },
        some ("ssrc already exists in RTP listener [ssrc:" ++ toString ssrc ++ "]"))
  | (ssrcTable, none) =>
      match addKeys rtpReceiver p.muxIds l.muxIdTable with
      | (muxIdTable, some muxId) =>
          (rollback { l with ssrcTable, muxIdTable },
            some ("muxId already exists in RTP listener [muxId:'" ++ muxId ++ "']"))
      | (muxIdTable, none) =>
          match addKeys rtpReceiver p.payloadTypes l.ptTable with
          | (ptTable, some payloadType) =>
              (rollback { ssrcTable, muxIdTable, ptTable },
                some ("payloadType already exists in RTP listener [payloadType:" ++
                  toString payloadType ++ "]"))
          | (ptTable, none) => ({ ssrcTable, muxIdTable, ptTable }, none)

/-- `RtpListener::GetRtpReceiver` for a packet: the receiver, and the listener, which learns the SSRC
of a packet that it finds by its payload type. `codecs` are the payload types in the parameters that
each receiver has. -/
def getRtpReceiver (codecs : Nat → List UInt8) (ssrc : UInt32) (payloadType : UInt8) :
    Option Nat × RtpListener :=
  match l.ssrcTable.find? ssrc with
  | some rtpReceiver => (if payloadType ∈ codecs rtpReceiver then some rtpReceiver else none, l)
  | none =>
      match l.ptTable.find? payloadType with
      | some rtpReceiver =>
          (some rtpReceiver, { l with ssrcTable := l.ssrcTable.insert ssrc rtpReceiver })
      | none => (none, l)

end RtpListener

end KoreWebsocket.Rtc
