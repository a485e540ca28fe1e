import Linkshelf.Main
import Linkshelf.Web.Router
import Linkshelf.Proofs.Query.Spelling
import Linkshelf.Proofs.Shelf.Durability
import Linkshelf.Proofs.Bookmark.Tags
import Linkshelf.Proofs.Bookmark.Tidy
import Linkshelf.Proofs.Shelf.Run
import Linkshelf.Proofs.Shelf.Distinct
import Linkshelf.Proofs.Shelf.OrderedMap
import Linkshelf.Proofs.Shelf.Update
import Linkshelf.Proofs.TagTree.Build
import Linkshelf.Proofs.Shelf.Browsing
import Linkshelf.Proofs.Shelf.Clean
import Linkshelf.Proofs.Shelf.Backup
import Linkshelf.Proofs.Disk.Names
import Linkshelf.Proofs.Shelf.Saving
import Linkshelf.Proofs.Web.Effects
import Linkshelf.Proofs.Shelf.Editing
import Linkshelf.Proofs.Disk.Folders
import Linkshelf.Proofs.Settings.Loading
import Linkshelf.Proofs.Disk.OneFile
import Linkshelf.Proofs.Program.DataFile
import Linkshelf.Proofs.Yaml.Plain
import Linkshelf.Proofs.Yaml.Quoted
import Linkshelf.Proofs.Yaml.Block
import Linkshelf.Proofs.Yaml.Fields
import Linkshelf.Proofs.TagTree.Paths
import Linkshelf.Proofs.TagTree.Bucket
import Linkshelf.Proofs.Bookmark.SearchText
import Linkshelf.Proofs.Query.LetterCase
import Linkshelf.Proofs.Query.Phrase
import Linkshelf.Proofs.Query.Conservation
import Linkshelf.Proofs.Query.Parts
import Linkshelf.Proofs.Query.Delimiters
import Linkshelf.Proofs.Query.Shown
import Linkshelf.Proofs.Query.Monotone
import Linkshelf.Proofs.Bookmark.Normalized
import Linkshelf.Proofs.TagTree.Content
import Linkshelf.Proofs.TagTree.Arrangement
import Linkshelf.Proofs.Disk.Stored
import Linkshelf.Proofs.Disk.Acts
import Linkshelf.Proofs.Query.Separation
import Linkshelf.Proofs.Collection.Readings
import Linkshelf.Proofs.Web.Body
