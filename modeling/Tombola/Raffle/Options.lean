import Tombola.Refusal

/-!
# Choosing the options of a raffle

What an owner may ask for, and how the options follow from it: on creation absent settings take
their defaults, on a change they keep their values. A start is never before the present, a raffle
never sells more tickets than the configuration allows, and the preview is one of the prizes.
-/

namespace Tombola

/-- The settings that an owner asks for; each may be left out. -/
structure OptionsRequest where
  start : Option Timestamp
  duration : Option Seconds
  timeout : Option Seconds
  comment : Option String
  maxTickets : Option TicketCount
  maxPerBuyer : Option TicketCount
  preview : Option UInt32
  deriving DecidableEq

namespace OptionsRequest

/-- Nothing is asked for. -/
def empty : OptionsRequest := ⟨none, none, none, none, none, none, none⟩

/-- The most bytes that a comment can have. -/
def maxCommentBytes : Nat := 20000

/-- The comment is not too long. -/
def isValidComment (comment : String) : Bool := comment.utf8ByteSize ≤ maxCommentBytes

/-- Durations below the configured minimums and long comments are refused. -/
def check (r : OptionsRequest) (config : Config) : Outcome Unit := do
  if let some duration := r.duration then
    Outcome.ensure (config.minDuration ≤ duration) (.durationTooShort config.minDuration)
  if let some timeout := r.timeout then
    Outcome.ensure (config.minTimeout ≤ timeout) (.timeoutTooShort config.minTimeout)
  if let some comment := r.comment then
    Outcome.ensure (isValidComment comment)
      (.commentTooLarge comment.utf8ByteSize maxCommentBytes)

/-- The request sets the start or the duration. -/
def reschedules (r : OptionsRequest) : Bool := r.start.isSome || r.duration.isSome

end OptionsRequest

namespace RaffleOptions

/-- The preview, or the first prize when there are not that many. -/
def previewAmong (prizes : Nat) (preview : UInt32) : UInt32 :=
  if prizes ≤ preview.toNat then 0 else preview

/-- The smaller of the configured and the requested number, as far as there is one. -/
def capped (config : Config) (requested : Option TicketCount) : Option TicketCount :=
  match config.maxTickets, requested with
  | some most, some n => some (if most ≤ n then most else n)
  | some most, none => some most
  | none, n => n

/-- The options of a new raffle with a number of prizes. -/
def ofRequest (now : Timestamp) (prizes : Nat) (r : OptionsRequest) (config : Config) :
    RaffleOptions where
  start := max (r.start.getD now) now
  duration := r.duration.getD config.minDuration
  timeout := r.timeout.getD config.minTimeout
  comment := r.comment
  maxTickets := capped config r.maxTickets
  maxPerBuyer := r.maxPerBuyer
  preview := (r.preview.map (previewAmong prizes)).getD 0

/-- The options after a change of the settings that the request names. -/
def revise (o : RaffleOptions) (now : Timestamp) (prizes : Nat) (r : OptionsRequest)
    (config : Config) : RaffleOptions where
  start := max (r.start.getD o.start) now
  duration := r.duration.getD o.duration
  timeout := r.timeout.getD o.timeout
  comment := r.comment.or o.comment
  maxTickets := capped config (r.maxTickets.or o.maxTickets)
  maxPerBuyer := r.maxPerBuyer.or o.maxPerBuyer
  preview := (r.preview.map (previewAmong prizes)).getD o.preview

end RaffleOptions

end Tombola
