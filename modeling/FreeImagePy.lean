import FreeImagePy.Interface
import FreeImagePy.Loader
import FreeImagePy.Registry
import FreeImagePy.Layout
import FreeImagePy.Pixels
import FreeImagePy.Metadata
import FreeImagePy.Files
import FreeImagePy.Monitor
import FreeImagePy.Handles
import FreeImagePy.Memory
import FreeImagePy.Bitmaps
import FreeImagePy.RoundTrip
import FreeImagePy.FileRoundTrip
import FreeImagePy.Cursors
import FreeImagePy.Tags
import FreeImagePy.ImageStore
