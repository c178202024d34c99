import Mathlib.Data.List.Basic

/-!
# Response codes

Every line the server sends starts with a three digit code.  The first digit tells the category:
information, success, error details, user failures, server failures.  A client waits for the one
final status of its command, which is a success other than the announcement of data, or a user
failure.
-/

namespace Pianod

/-- The status codes. -/
inductive ResponseCode where
  | iPlaying
  | iPaused
  | iStopped
  | iBetweenTracks
  | iStalled
  | iSelectedStationNone
  | iSelectedStation
  | iId
  | iAlbum
  | iArtist
  | iSong
  | iStation
  | iRating
  | iInfoUrl
  | iCoverArt
  | iGenre
  | iUserRating
  | iChoiceExplanation
  | iYell
  | iInfo
  | iServerStatus
  | iMixChanged
  | iStationsChanged
  | iUserPrivileges
  | iUserRatingsChanged
  | iVolume
  | iHistorySize
  | iAudioQuality
  | iAutotuneMode
  | iPandoraRetry
  | iPauseTimeout
  | iPlaylistTimeout
  | iProxy
  | iControlProxy
  | iRpcHost
  | iRpcTlsPort
  | iPartnerUser
  | iPartnerPassword
  | iPandoraDevice
  | iEncryptionPassword
  | iDecryptionPassword
  | iPandoraUser
  | iPandoraPassword
  | iTlsFingerprint
  | iOutputDriver
  | iOutputDevice
  | iOutputId
  | iOutputServer
  | iCapturePath
  | iShoutcast
  | sOk
  | sData
  | sDataEnd
  | sSignoff
  | iStationInvalid
  | iNotFound
  | eBadCommand
  | eUnauthorized
  | eNak
  | eDuplicate
  | eNotFound
  | eWrongState
  | eCredentials
  | eInvalid
  | eTransformFailed
  | eConflict
  | eRequestPending
  | eQuota
  | eLoginRequired
  | eNotImplemented
  | eFailure
  | eNetworkFailure
  | eAuthentication
  | eResource
  | eIncomplete
deriving DecidableEq, Repr

namespace ResponseCode

/-- The number sent on the line. -/
def value : ResponseCode → Nat
  | iPlaying => 101
  | iPaused => 102
  | iStopped => 103
  | iBetweenTracks => 104
  | iStalled => 106
  | iSelectedStationNone => 108
  | iSelectedStation => 109
  | iId => 111
  | iAlbum => 112
  | iArtist => 113
  | iSong => 114
  | iStation => 115
  | iRating => 116
  | iInfoUrl => 117
  | iCoverArt => 118
  | iGenre => 119
  | iUserRating => 120
  | iChoiceExplanation => 121
  | iYell => 131
  | iInfo => 132
  | iServerStatus => 133
  | iMixChanged => 134
  | iStationsChanged => 135
  | iUserPrivileges => 136
  | iUserRatingsChanged => 137
  | iVolume => 141
  | iHistorySize => 142
  | iAudioQuality => 143
  | iAutotuneMode => 144
  | iPandoraRetry => 145
  | iPauseTimeout => 146
  | iPlaylistTimeout => 147
  | iProxy => 161
  | iControlProxy => 162
  | iRpcHost => 163
  | iRpcTlsPort => 164
  | iPartnerUser => 165
  | iPartnerPassword => 166
  | iPandoraDevice => 167
  | iEncryptionPassword => 168
  | iDecryptionPassword => 169
  | iPandoraUser => 170
  | iPandoraPassword => 171
  | iTlsFingerprint => 172
  | iOutputDriver => 181
  | iOutputDevice => 182
  | iOutputId => 183
  | iOutputServer => 184
  | iCapturePath => 190
  | iShoutcast => 191
  | sOk => 200
  | sData => 203
  | sDataEnd => 204
  | sSignoff => 205
  | iStationInvalid => 303
  | iNotFound => 304
  | eBadCommand => 400
  | eUnauthorized => 401
  | eNak => 402
  | eDuplicate => 403
  | eNotFound => 404
  | eWrongState => 405
  | eCredentials => 406
  | eInvalid => 407
  | eTransformFailed => 408
  | eConflict => 409
  | eRequestPending => 410
  | eQuota => 411
  | eLoginRequired => 412
  | eNotImplemented => 499
  | eFailure => 500
  | eNetworkFailure => 502
  | eAuthentication => 504
  | eResource => 505
  | eIncomplete => 508

/-- The code ends the answer to a command. -/
def isFinal (code : ResponseCode) : Bool :=
  200 ≤ code.value && code.value ≤ 299 && code.value != 203 ||
    400 ≤ code.value && code.value ≤ 499

end ResponseCode

/-- Where a line is sent: to one connection or to all of a service. -/
inductive Recipient where
  | connection (session : Nat)
  | service
deriving DecidableEq, Repr

/-- A line, of which only the code matters here. -/
structure Message where
  /-- Whom it is sent to. -/
  recipient : Recipient
  code : ResponseCode
deriving DecidableEq, Repr

/-- Whether a line sent to a recipient reaches a connection. -/
def Recipient.reaches (session : Nat) : Recipient → Bool
  | .connection other => other = session
  | .service => true

/-- The final statuses among the lines that reach a connection. -/
def verdicts (session : Nat) (messages : List Message) : Nat :=
  messages.countP fun message => message.recipient.reaches session && message.code.isFinal

@[simp]
theorem verdicts_nil (session : Nat) : verdicts session [] = 0 := rfl

@[simp]
theorem verdicts_append (session : Nat) (first second : List Message) :
    verdicts session (first ++ second) = verdicts session first + verdicts session second :=
  List.countP_append

@[simp]
theorem verdicts_cons (session : Nat) (message : Message) (messages : List Message) :
    verdicts session (message :: messages) =
      (if message.recipient.reaches session && message.code.isFinal then 1 else 0) +
        verdicts session messages := by
  rw [verdicts, List.countP_cons, Nat.add_comm]
  rfl

/-- Lines without a final code give no verdict. -/
theorem verdicts_eq_zero {session : Nat} {messages : List Message}
    (informal : ∀ message ∈ messages, message.code.isFinal = false) :
    verdicts session messages = 0 := by
  rw [verdicts, List.countP_eq_zero]
  intro message member
  simp [informal message member]

end Pianod
