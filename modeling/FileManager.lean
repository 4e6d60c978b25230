import FileManager.Library.Run
import FileManager.Library.Table
import FileManager.Library.Text
import FileManager.Model.Schema
import FileManager.Model.Http
import FileManager.Model.World
import FileManager.Model.Platform
import FileManager.Model.Multer
import FileManager.Model.Auth
import FileManager.Model.FileController
import FileManager.Model.UserController
import FileManager.Model.Upload
import FileManager.Model.Server
import FileManager.Proof.Steps
import FileManager.Proof.Alone
import FileManager.Proof.StandIn
import FileManager.Proof.CreateFile
import FileManager.Proof.FileNames
import FileManager.Proof.Users
import FileManager.Proof.Login
import FileManager.Proof.FilePaths
import FileManager.Proof.Failures
import FileManager.Proof.Uploads
import FileManager.Proof.Identity
import FileManager.Proof.ObjectIds
import FileManager.Proof.UploadRoute
import FileManager.Proof.Answered
import FileManager.Proof.Authentication
import FileManager.Proof.Reported
import FileManager.Proof.FileApi
import FileManager.Proof.Concurrent
import FileManager.Proof.Quiescence
import FileManager.Proof.Statuses
import FileManager.Proof.Isolation
