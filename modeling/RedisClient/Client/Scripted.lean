import RedisClient.Client
import RedisClient.Scan.Page

/-!
# Scripted clients

A scripted client has no server. Its replies are laid down beforehand, per
command name and in order, and so is what becomes of its other calls and of the
sentinels that it opens. Past the end of a script all goes well: a page of a
traversal is the last one and empty, and any other reply is `OK`.
-/

namespace RedisClient

/-- How many replies a round of commands gets. -/
inductive Round where
  /-- Every command has its reply. -/
  | full
  /-- The last replies are missing. -/
  | short (count : Nat)
  /-- There are more replies than commands. -/
  | long (count : Nat)
  deriving DecidableEq, Repr

/-- The replies that a round gets, of those that are laid down. -/
def Round.apply : Round → List (Except Error Frame) → List (Except Error Frame)
  | full, replies => replies
  | short count, replies => replies.take (replies.length - count)
  | long count, replies =>
    replies ++ List.replicate count (.ok (.simple (Utf8.encode "OK")))

/-- What is laid down for a client. -/
structure Script where
  /-- The replies to the commands of a name. -/
  replies : List (String × List (Except Error Frame)) := []
  /-- What becomes of the commands that are to be kept back. -/
  queue : List (Option Error) := []
  /-- What becomes of the rounds of commands. -/
  sync : List (Except Error Round) := []
  /-- What becomes of giving the stream back. -/
  quit : List (Option Error) := []
  /-- What is laid down for the clients of sentinels, by address, or why they
  cannot be opened. -/
  sentinels : List (String × Except Error Script) := []

namespace Script

/-- The commands that ask for pages. -/
def pageCommands : List String := ["SCAN", "SSCAN", "HSCAN", "ZSCAN"]

/-- The reply to a command of a name when none is laid down. -/
def defaultReply (name : String) : Frame :=
  if name ∈ pageCommands then .array [.bulk (Utf8.encode Page.endToken), .array []]
  else .simple (Utf8.encode "OK")

/-- The next reply of a name, and the replies that are left. -/
def takeReply (name : String) :
    List (String × List (Except Error Frame)) →
      Except Error Frame × List (String × List (Except Error Frame))
  | [] => (.ok (defaultReply name), [])
  | (other, replies) :: rest =>
    if other = name then
      match replies with
      | [] => (.ok (defaultReply name), (other, []) :: rest)
      | reply :: replies => (reply, (other, replies) :: rest)
    else
      let (reply, rest) := takeReply name rest
      (reply, (other, replies) :: rest)

/-- How many replies are laid down. -/
def replyCount (script : Script) : Nat :=
  script.replies.foldl (fun count (_, replies) => count + replies.length) 0

end Script

/-- A client that follows a script. -/
structure ScriptedClient where
  /-- What is still to come. -/
  script : Script := {}
  /-- The commands that are kept back. -/
  stored : List Command := []

namespace ScriptedClient

/-- The next reply to a command, and the client after it. -/
def reply (client : ScriptedClient) (command : Command) : Except Error Frame × ScriptedClient :=
  let (reply, replies) := Script.takeReply command.nameText client.script.replies
  (reply, { client with script := { client.script with replies } })

/-- The next replies to commands, and the client after them. -/
def replyAll (client : ScriptedClient) :
    List Command → List (Except Error Frame) × ScriptedClient
  | [] => ([], client)
  | command :: rest =>
    let (first, client) := client.reply command
    let (others, client) := client.replyAll rest
    (first :: others, client)

/-- Goes on, or fails as laid down. -/
def proceed {σ : Type} (turn : Option Error) (s : σ) : EStateM.Result Error σ Unit :=
  match turn with
  | none => .ok () s
  | some error => .error error s

instance : Client ScriptedClient Unit where
  queued client := client.stored.length
  execute command := fun (client, env) =>
    match client.reply command with
    | (.ok frame, client) => .ok frame (client, env)
    | (.error error, client) => .error error (client, env)
  queue command := fun (client, env) =>
    let script := { client.script with queue := client.script.queue.tail }
    match client.script.queue.head?.join with
    | none => .ok () ({ script, stored := client.stored ++ [command] }, env)
    | some error => .error error ({ client with script }, env)
  sync := fun (client, env) =>
    let script := { client.script with sync := client.script.sync.tail }
    match client.script.sync.head?.getD (.ok .full) with
    | .error error => .error error ({ script, stored := [] }, env)
    | .ok round =>
      let (replies, client) := ({ script } : ScriptedClient).replyAll client.stored
      .ok (round.apply replies) (client, env)
  quit := fun (client, env) =>
    let script := { client.script with quit := client.script.quit.tail }
    proceed client.script.quit.head?.join ({ script, stored := [] }, env)
  openSentinel client node env :=
    let script := (client.script.sentinels.lookup node.text).getD (.ok {})
    (script.map fun script => { script }, env)

end ScriptedClient

end RedisClient
