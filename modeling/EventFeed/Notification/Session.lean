import EventFeed.Connection.Input

/-!
# Sessions

While a user is signed in the client is connected with the user's token and subscribed to the
topics that every session starts with.
-/

namespace EventFeed.Notification

open Connection (Command Token)

structure Session where
  topics : List Topic
  deriving DecidableEq

namespace Session

def start (s : Session) (token : Token) : List Command :=
  s.topics.map .subscribe ++ [.connect (some token)]

def finish : List Command := [.disconnect]

/-- What a sign-in or sign-out asks of the client. -/
def follow (s : Session) : Option Token → List Command
  | some token => s.start token
  | none => finish

end Session

end EventFeed.Notification
