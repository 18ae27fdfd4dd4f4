import LiveChat.Time.Duration

/-!
# Delays between attempts

A harvester that ended is started again after a delay, which doubles from attempt to attempt up to a
ceiling and starts over after a healthy run.
-/

namespace LiveChat.Ingest

open LiveChat.Time

/-- The delay after another one, between the first delay and the ceiling. A ceiling below the first
delay counts as equal to it. -/
def nextDelay (current base ceiling : Duration) : Duration :=
  if current < base then base else min (Duration.double current) (max ceiling base)

structure Backoff where
  base : Duration
  ceiling : Duration
  upcoming : Duration
deriving DecidableEq, Repr

namespace Backoff

def new (base ceiling : Duration) : Backoff := ⟨base, max ceiling base, base⟩

def take (backoff : Backoff) : Duration × Backoff :=
  (backoff.upcoming,
    { backoff with upcoming := nextDelay backoff.upcoming backoff.base backoff.ceiling })

/-- The delay that is taken next. -/
def peek (backoff : Backoff) : Duration := backoff.upcoming

def reset (backoff : Backoff) : Backoff := { backoff with upcoming := backoff.base }

end Backoff

end LiveChat.Ingest
