import MailboxSync.Store.Table
import MailboxSync.Sync.Environment

/-!
# Progress in memory

Tokens by user and folder, watermarks by user.  A folder without a token has the initial one, a user without a
watermark the epoch.  Nothing here fails except a stamp that denotes no instant.
-/

namespace MailboxSync

abbrev TokenTable := Table (User × FolderId) Token

abbrev WatermarkTable := Table User Instant

namespace TokenTable

def token (t : TokenTable) (user : User) (folder : FolderId) : Token := (t.get? (user, folder)).getD .initial

/-- The note on a token that was saved. -/
def savedNote (user : User) (folder : FolderId) : Note := ⟨.debug, s!"Saved sync state for {user}:{folder}"⟩

end TokenTable

namespace WatermarkTable

def watermark (t : WatermarkTable) (user : User) : Instant := (t.get? user).getD .epoch

/-- Writes a watermark as the instant it denotes. -/
def save (t : WatermarkTable) (user : User) (stamp : Stamp) : Except Fault WatermarkTable :=
  stamp.toInstant.map (t.put user)

end WatermarkTable

/-- Progress that ends with the process. -/
structure Memory where
  tokens : TokenTable := {}
  watermarks : WatermarkTable := {}
  deriving Repr, Inhabited

def Memory.stores : Stores Memory where
  token m user folder := .ok (m.tokens.token user folder, [])
  saveToken m user folder token :=
    .ok ({ m with tokens := m.tokens.put (user, folder) token }, [TokenTable.savedNote user folder])
  watermark m user := .ok (m.watermarks.watermark user, [])
  saveWatermark m user stamp := (m.watermarks.save user stamp).map fun watermarks => ({ m with watermarks }, [])

end MailboxSync
