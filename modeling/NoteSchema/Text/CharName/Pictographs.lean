namespace NoteSchema.Text.CharName

/-- Pictographs, and the tags and selectors that follow characters. -/
def pictographs : String :=
"1F000 MAHJONG TILE /EAST WIND/SOUTH WIND/WEST WIND/NORTH WIND/RED DRAGON/GREEN DRAGON/WHITE DRAGON
1F007 MAHJONG TILE /ONE OF CHARACTERS/TWO OF CHARACTERS/THREE OF CHARACTERS/FOUR OF CHARACTERS
1F00B MAHJONG TILE /FIVE OF CHARACTERS/SIX OF CHARACTERS/SEVEN OF CHARACTERS/EIGHT OF CHARACTERS
1F00F MAHJONG TILE /NINE OF CHARACTERS/ONE OF BAMBOOS/TWO OF BAMBOOS/THREE OF BAMBOOS
1F013 MAHJONG TILE /FOUR OF BAMBOOS/FIVE OF BAMBOOS/SIX OF BAMBOOS/SEVEN OF BAMBOOS
1F017 MAHJONG TILE /EIGHT OF BAMBOOS/NINE OF BAMBOOS/ONE OF CIRCLES/TWO OF CIRCLES/THREE OF CIRCLES
1F01C MAHJONG TILE /FOUR OF CIRCLES/FIVE OF CIRCLES/SIX OF CIRCLES/SEVEN OF CIRCLES
1F020 MAHJONG TILE /EIGHT OF CIRCLES/NINE OF CIRCLES/PLUM/ORCHID/BAMBOO/CHRYSANTHEMUM/SPRING/SUMMER
1F028 MAHJONG TILE /AUTUMN/WINTER/JOKER/BACK
1F030 /DOMINO TILE HORIZONTAL BACK
1F031 DOMINO TILE HORIZONTAL-00-/00/01/02/03/04/05/06
1F038 DOMINO TILE HORIZONTAL-01-/00/01/02/03/04/05/06
1F03F DOMINO TILE HORIZONTAL-02-/00/01/02/03/04/05/06
1F046 DOMINO TILE HORIZONTAL-03-/00/01/02/03/04/05/06
1F04D DOMINO TILE HORIZONTAL-04-/00/01/02/03/04/05/06
1F054 DOMINO TILE HORIZONTAL-05-/00/01/02/03/04/05/06
1F05B DOMINO TILE HORIZONTAL-06-/00/01/02/03/04/05/06
1F062 /DOMINO TILE VERTICAL BACK
1F063 DOMINO TILE VERTICAL-00-/00/01/02/03/04/05/06
1F06A DOMINO TILE VERTICAL-01-/00/01/02/03/04/05/06
1F071 DOMINO TILE VERTICAL-02-/00/01/02/03/04/05/06
1F078 DOMINO TILE VERTICAL-03-/00/01/02/03/04/05/06
1F07F DOMINO TILE VERTICAL-04-/00/01/02/03/04/05/06
1F086 DOMINO TILE VERTICAL-05-/00/01/02/03/04/05/06
1F08D DOMINO TILE VERTICAL-06-/00/01/02/03/04/05/06
1F0A0 PLAYING CARD /BACK/ACE OF SPADES/TWO OF SPADES/THREE OF SPADES/FOUR OF SPADES/FIVE OF SPADES
1F0A6 PLAYING CARD /SIX OF SPADES/SEVEN OF SPADES/EIGHT OF SPADES/NINE OF SPADES/TEN OF SPADES
1F0AB PLAYING CARD /JACK OF SPADES/KNIGHT OF SPADES/QUEEN OF SPADES/KING OF SPADES
1F0B1 PLAYING CARD /ACE OF HEARTS/TWO OF HEARTS/THREE OF HEARTS/FOUR OF HEARTS/FIVE OF HEARTS
1F0B6 PLAYING CARD /SIX OF HEARTS/SEVEN OF HEARTS/EIGHT OF HEARTS/NINE OF HEARTS/TEN OF HEARTS
1F0BB PLAYING CARD /JACK OF HEARTS/KNIGHT OF HEARTS/QUEEN OF HEARTS/KING OF HEARTS/RED JOKER
1F0C1 PLAYING CARD /ACE OF DIAMONDS/TWO OF DIAMONDS/THREE OF DIAMONDS/FOUR OF DIAMONDS
1F0C5 PLAYING CARD /FIVE OF DIAMONDS/SIX OF DIAMONDS/SEVEN OF DIAMONDS/EIGHT OF DIAMONDS
1F0C9 PLAYING CARD /NINE OF DIAMONDS/TEN OF DIAMONDS/JACK OF DIAMONDS/KNIGHT OF DIAMONDS
1F0CD PLAYING CARD /QUEEN OF DIAMONDS/KING OF DIAMONDS/BLACK JOKER
1F0D1 PLAYING CARD /ACE OF CLUBS/TWO OF CLUBS/THREE OF CLUBS/FOUR OF CLUBS/FIVE OF CLUBS
1F0D6 PLAYING CARD /SIX OF CLUBS/SEVEN OF CLUBS/EIGHT OF CLUBS/NINE OF CLUBS/TEN OF CLUBS
1F0DB PLAYING CARD /JACK OF CLUBS/KNIGHT OF CLUBS/QUEEN OF CLUBS/KING OF CLUBS/WHITE JOKER/FOOL
1F0E1 PLAYING CARD TRUMP-/1/2/3/4/5/6/7/8/9/10/11/12/13/14/15/16/17/18/19/20/21
1F100 DIGIT /ZERO FULL STOP/ZERO COMMA/ONE COMMA/TWO COMMA/THREE COMMA/FOUR COMMA/FIVE COMMA
1F107 DIGIT /SIX COMMA/SEVEN COMMA/EIGHT COMMA/NINE COMMA
1F10B DINGBAT /CIRCLED SANS-SERIF DIGIT ZERO/NEGATIVE CIRCLED SANS-SERIF DIGIT ZERO
1F10D CIRCLED /ZERO WITH SLASH/ANTICLOCKWISE ARROW/DOLLAR SIGN WITH OVERLAID BACKSLASH
1F110 PARENTHESIZED LATIN CAPITAL LETTER /A/B/C/D/E/F/G/H/I/J/K/L/M/N/O/P/Q/R/S/T/U/V/W/X/Y/Z
1F12A /TORTOISE SHELL BRACKETED LATIN CAPITAL LETTER S
1F12B CIRCLED ITALIC LATIN CAPITAL LETTER /C/R
1F12D CIRCLED /CD/WZ
1F12F /COPYLEFT SYMBOL
1F130 SQUARED LATIN CAPITAL LETTER /A/B/C/D/E/F/G/H/I/J/K/L/M/N/O/P/Q/R/S/T/U/V/W/X/Y/Z
1F14A SQUARED /HV/MV/SD/SS/PPV/WC
1F150 NEGATIVE CIRCLED LATIN CAPITAL LETTER /A/B/C/D/E/F/G/H/I/J/K/L/M/N/O/P/Q/R/S/T/U/V/W/X/Y/Z
1F16A RAISED /MC SIGN/MD SIGN/MR SIGN
1F16D CIRCLED /CC/C WITH OVERLAID BACKSLASH/HUMAN FIGURE
1F170 NEGATIVE SQUARED LATIN CAPITAL LETTER /A/B/C/D/E/F/G/H/I/J/K/L/M/N/O/P/Q/R/S/T/U/V/W/X/Y/Z
1F18A /CROSSED NEGATIVE SQUARED LATIN CAPITAL LETTER P
1F18B NEGATIVE SQUARED /IC/PA/SA/AB/WC
1F190 /SQUARE DJ
1F191 SQUARED /CL/COOL/FREE/ID/NEW/NG/OK/SOS/UP WITH EXCLAMATION MARK/VS/THREE D/SECOND SCREEN
1F19D SQUARED /TWO K/FOUR K/EIGHT K/FIVE POINT ONE/SEVEN POINT ONE/TWENTY-TWO POINT TWO/SIXTY P
1F1A4 SQUARED /ONE HUNDRED TWENTY P/LATIN SMALL LETTER D/HC/HDR/HI-RES/LOSSLESS/SHV/UHD/VOD
1F1AD /MASK WORK SYMBOL
1F1E6 REGIONAL INDICATOR SYMBOL LETTER /A/B/C/D/E/F/G/H/I/J/K/L/M/N/O/P/Q/R/S/T/U/V/W/X/Y/Z
1F200 /SQUARE HIRAGANA HOKA
1F201 SQUARED KATAKANA /KOKO/SA
1F210 SQUARED CJK UNIFIED IDEOGRAPH-/624B/5B57/53CC
1F213 /SQUARED KATAKANA DE
1F214 SQUARED CJK UNIFIED IDEOGRAPH-/4E8C/591A/89E3/5929/4EA4/6620/7121/6599/524D/5F8C/518D/65B0
1F220 SQUARED CJK UNIFIED IDEOGRAPH-/521D/7D42/751F/8CA9/58F0/5439/6F14/6295/6355/4E00/4E09/904A
1F22C SQUARED CJK UNIFIED IDEOGRAPH-/5DE6/4E2D/53F3/6307/8D70/6253/7981/7A7A/5408/6E80/6709/6708
1F238 SQUARED CJK UNIFIED IDEOGRAPH-/7533/5272/55B6/914D
1F240 TORTOISE SHELL BRACKETED CJK UNIFIED IDEOGRAPH-/672C/4E09/4E8C/5B89/70B9/6253/76D7/52DD/6557
1F250 CIRCLED IDEOGRAPH /ADVANTAGE/ACCEPT
1F260 ROUNDED SYMBOL FOR /FU/LU/SHOU/XI/SHUANGXI/CAI
1F300 /CYCLONE/FOGGY/CLOSED UMBRELLA/NIGHT WITH STARS/SUNRISE OVER MOUNTAINS/SUNRISE
1F306 /CITYSCAPE AT DUSK/SUNSET OVER BUILDINGS/RAINBOW/BRIDGE AT NIGHT/WATER WAVE/VOLCANO/MILKY WAY
1F30D EARTH GLOBE /EUROPE-AFRICA/AMERICAS/ASIA-AUSTRALIA
1F310 /GLOBE WITH MERIDIANS/NEW MOON SYMBOL/WAXING CRESCENT MOON SYMBOL/FIRST QUARTER MOON SYMBOL
1F314 /WAXING GIBBOUS MOON SYMBOL/FULL MOON SYMBOL/WANING GIBBOUS MOON SYMBOL
1F317 /LAST QUARTER MOON SYMBOL/WANING CRESCENT MOON SYMBOL/CRESCENT MOON/NEW MOON WITH FACE
1F31B /FIRST QUARTER MOON WITH FACE/LAST QUARTER MOON WITH FACE/FULL MOON WITH FACE/SUN WITH FACE
1F31F /GLOWING STAR/SHOOTING STAR/THERMOMETER/BLACK DROPLET/WHITE SUN
1F324 WHITE SUN /WITH SMALL CLOUD/BEHIND CLOUD/BEHIND CLOUD WITH RAIN
1F327 CLOUD WITH /RAIN/SNOW/LIGHTNING/TORNADO
1F32B /FOG/WIND BLOWING FACE/HOT DOG/TACO/BURRITO/CHESTNUT/SEEDLING/EVERGREEN TREE/DECIDUOUS TREE
1F334 /PALM TREE/CACTUS/HOT PEPPER/TULIP/CHERRY BLOSSOM/ROSE/HIBISCUS/SUNFLOWER/BLOSSOM
1F33D EAR OF /MAIZE/RICE
1F33F /HERB/FOUR LEAF CLOVER/MAPLE LEAF/FALLEN LEAF/LEAF FLUTTERING IN WIND/MUSHROOM/TOMATO
1F346 /AUBERGINE/GRAPES/MELON/WATERMELON/TANGERINE/LEMON/BANANA/PINEAPPLE/RED APPLE/GREEN APPLE
1F350 /PEAR/PEACH/CHERRIES/STRAWBERRY/HAMBURGER/SLICE OF PIZZA/MEAT ON BONE/POULTRY LEG
1F358 /RICE CRACKER/RICE BALL/COOKED RICE/CURRY AND RICE/STEAMING BOWL/SPAGHETTI/BREAD/FRENCH FRIES
1F360 /ROASTED SWEET POTATO/DANGO/ODEN/SUSHI/FRIED SHRIMP/FISH CAKE WITH SWIRL DESIGN
1F366 /SOFT ICE CREAM/SHAVED ICE/ICE CREAM/DOUGHNUT/COOKIE/CHOCOLATE BAR/CANDY/LOLLIPOP/CUSTARD
1F36F /HONEY POT/SHORTCAKE/BENTO BOX/POT OF FOOD/COOKING/FORK AND KNIFE/TEACUP WITHOUT HANDLE
1F376 /SAKE BOTTLE AND CUP/WINE GLASS/COCKTAIL GLASS/TROPICAL DRINK/BEER MUG/CLINKING BEER MUGS
1F37C /BABY BOTTLE/FORK AND KNIFE WITH PLATE/BOTTLE WITH POPPING CORK/POPCORN/RIBBON
1F381 /WRAPPED PRESENT/BIRTHDAY CAKE/JACK-O-LANTERN/CHRISTMAS TREE/FATHER CHRISTMAS/FIREWORKS
1F387 /FIREWORK SPARKLER/BALLOON/PARTY POPPER/CONFETTI BALL/TANABATA TREE/CROSSED FLAGS
1F38D /PINE DECORATION/JAPANESE DOLLS/CARP STREAMER/WIND CHIME/MOON VIEWING CEREMONY/SCHOOL SATCHEL
1F393 /GRADUATION CAP/HEART WITH TIP ON THE LEFT/BOUQUET OF FLOWERS/MILITARY MEDAL/REMINDER RIBBON
1F398 /MUSICAL KEYBOARD WITH JACKS/STUDIO MICROPHONE/LEVEL SLIDER/CONTROL KNOBS
1F39C BEAMED /ASCENDING MUSICAL NOTES/DESCENDING MUSICAL NOTES
1F39E /FILM FRAMES/ADMISSION TICKETS/CAROUSEL HORSE/FERRIS WHEEL/ROLLER COASTER
1F3A3 /FISHING POLE AND FISH/MICROPHONE/MOVIE CAMERA/CINEMA/HEADPHONE/ARTIST PALETTE/TOP HAT
1F3AA /CIRCUS TENT/TICKET/CLAPPER BOARD/PERFORMING ARTS/VIDEO GAME/DIRECT HIT/SLOT MACHINE
1F3B1 /BILLIARDS/GAME DIE/BOWLING/FLOWER PLAYING CARDS/MUSICAL NOTE/MULTIPLE MUSICAL NOTES
1F3B7 /SAXOPHONE/GUITAR/MUSICAL KEYBOARD/TRUMPET/VIOLIN/MUSICAL SCORE/RUNNING SHIRT WITH SASH
1F3BE /TENNIS RACQUET AND BALL/SKI AND SKI BOOT/BASKETBALL AND HOOP/CHEQUERED FLAG/SNOWBOARDER
1F3C3 /RUNNER/SURFER/SPORTS MEDAL/TROPHY/HORSE RACING/AMERICAN FOOTBALL/RUGBY FOOTBALL/SWIMMER
1F3CB /WEIGHT LIFTER/GOLFER/RACING MOTORCYCLE/RACING CAR/CRICKET BAT AND BALL/VOLLEYBALL
1F3D1 /FIELD HOCKEY STICK AND BALL/ICE HOCKEY STICK AND PUCK/TABLE TENNIS PADDLE AND BALL
1F3D4 /SNOW CAPPED MOUNTAIN/CAMPING/BEACH WITH UMBRELLA/BUILDING CONSTRUCTION/HOUSE BUILDINGS
1F3D9 /CITYSCAPE/DERELICT HOUSE BUILDING/CLASSICAL BUILDING/DESERT/DESERT ISLAND/NATIONAL PARK
1F3DF /STADIUM/HOUSE BUILDING/HOUSE WITH GARDEN/OFFICE BUILDING/JAPANESE POST OFFICE
1F3E4 /EUROPEAN POST OFFICE/HOSPITAL/BANK/AUTOMATED TELLER MACHINE/HOTEL/LOVE HOTEL
1F3EA /CONVENIENCE STORE/SCHOOL/DEPARTMENT STORE/FACTORY/IZAKAYA LANTERN/JAPANESE CASTLE
1F3F0 /EUROPEAN CASTLE/WHITE PENNANT/BLACK PENNANT/WAVING WHITE FLAG/WAVING BLACK FLAG/ROSETTE
1F3F6 /BLACK ROSETTE/LABEL/BADMINTON RACQUET AND SHUTTLECOCK/BOW AND ARROW/AMPHORA
1F3FB EMOJI MODIFIER FITZPATRICK TYPE-/1-2/3/4/5/6
1F400 /RAT/MOUSE/OX/WATER BUFFALO/COW/TIGER/LEOPARD/RABBIT/CAT/DRAGON/CROCODILE/WHALE/SNAIL/SNAKE
1F40E /HORSE/RAM/GOAT/SHEEP/MONKEY/ROOSTER/CHICKEN/DOG/PIG/BOAR/ELEPHANT/OCTOPUS/SPIRAL SHELL/BUG
1F41C /ANT/HONEYBEE/LADY BEETLE/FISH/TROPICAL FISH/BLOWFISH/TURTLE/HATCHING CHICK/BABY CHICK
1F425 /FRONT-FACING BABY CHICK/BIRD/PENGUIN/KOALA/POODLE/DROMEDARY CAMEL/BACTRIAN CAMEL/DOLPHIN
1F42D /MOUSE FACE/COW FACE/TIGER FACE/RABBIT FACE/CAT FACE/DRAGON FACE/SPOUTING WHALE/HORSE FACE
1F435 /MONKEY FACE/DOG FACE/PIG FACE/FROG FACE/HAMSTER FACE/WOLF FACE/BEAR FACE/PANDA FACE/PIG NOSE
1F43E /PAW PRINTS/CHIPMUNK/EYES/EYE/EAR/NOSE/MOUTH/TONGUE
1F446 WHITE /UP POINTING BACKHAND INDEX/DOWN POINTING BACKHAND INDEX/LEFT POINTING BACKHAND INDEX
1F449 /WHITE RIGHT POINTING BACKHAND INDEX/FISTED HAND SIGN/WAVING HAND SIGN/OK HAND SIGN
1F44D THUMBS /UP SIGN/DOWN SIGN
1F44F /CLAPPING HANDS SIGN/OPEN HANDS SIGN/CROWN/WOMANS HAT/EYEGLASSES/NECKTIE/T-SHIRT/JEANS/DRESS
1F458 /KIMONO/BIKINI/WOMANS CLOTHES/PURSE/HANDBAG/POUCH/MANS SHOE/ATHLETIC SHOE/HIGH-HEELED SHOE
1F461 WOMANS /SANDAL/BOOTS
1F463 /FOOTPRINTS/BUST IN SILHOUETTE/BUSTS IN SILHOUETTE/BOY/GIRL/MAN/WOMAN/FAMILY
1F46B /MAN AND WOMAN HOLDING HANDS/TWO MEN HOLDING HANDS/TWO WOMEN HOLDING HANDS/POLICE OFFICER
1F46F /WOMAN WITH BUNNY EARS/BRIDE WITH VEIL/PERSON WITH BLOND HAIR
1F472 MAN WITH /GUA PI MAO/TURBAN
1F474 /OLDER MAN/OLDER WOMAN/BABY/CONSTRUCTION WORKER/PRINCESS
1F479 JAPANESE /OGRE/GOBLIN
1F47B /GHOST/BABY ANGEL/EXTRATERRESTRIAL ALIEN/ALIEN MONSTER/IMP/SKULL/INFORMATION DESK PERSON
1F482 /GUARDSMAN/DANCER/LIPSTICK/NAIL POLISH/FACE MASSAGE/HAIRCUT/BARBER POLE/SYRINGE/PILL
1F48B /KISS MARK/LOVE LETTER/RING/GEM STONE/KISS/BOUQUET/COUPLE WITH HEART/WEDDING/BEATING HEART
1F494 /BROKEN HEART/TWO HEARTS/SPARKLING HEART/GROWING HEART/HEART WITH ARROW/BLUE HEART
1F49A /GREEN HEART/YELLOW HEART/PURPLE HEART/HEART WITH RIBBON/REVOLVING HEARTS/HEART DECORATION
1F4A0 /DIAMOND SHAPE WITH A DOT INSIDE/ELECTRIC LIGHT BULB/ANGER SYMBOL/BOMB/SLEEPING SYMBOL
1F4A5 /COLLISION SYMBOL/SPLASHING SWEAT SYMBOL/DROPLET/DASH SYMBOL/PILE OF POO/FLEXED BICEPS
1F4AB /DIZZY SYMBOL/SPEECH BALLOON/THOUGHT BALLOON/WHITE FLOWER/HUNDRED POINTS SYMBOL/MONEY BAG
1F4B1 /CURRENCY EXCHANGE/HEAVY DOLLAR SIGN/CREDIT CARD
1F4B4 BANKNOTE WITH /YEN SIGN/DOLLAR SIGN/EURO SIGN/POUND SIGN
1F4B8 /MONEY WITH WINGS/CHART WITH UPWARDS TREND AND YEN SIGN/SEAT/PERSONAL COMPUTER/BRIEFCASE
1F4BD /MINIDISC/FLOPPY DISK/OPTICAL DISC/DVD/FILE FOLDER/OPEN FILE FOLDER/PAGE WITH CURL
1F4C4 /PAGE FACING UP/CALENDAR/TEAR-OFF CALENDAR/CARD INDEX
1F4C8 CHART WITH /UPWARDS TREND/DOWNWARDS TREND
1F4CA /BAR CHART/CLIPBOARD/PUSHPIN/ROUND PUSHPIN/PAPERCLIP/STRAIGHT RULER/TRIANGULAR RULER
1F4D1 /BOOKMARK TABS/LEDGER/NOTEBOOK/NOTEBOOK WITH DECORATIVE COVER/CLOSED BOOK/OPEN BOOK
1F4D7 /GREEN BOOK/BLUE BOOK/ORANGE BOOK/BOOKS/NAME BADGE/SCROLL/MEMO/TELEPHONE RECEIVER/PAGER
1F4E0 /FAX MACHINE/SATELLITE ANTENNA/PUBLIC ADDRESS LOUDSPEAKER/CHEERING MEGAPHONE/OUTBOX TRAY
1F4E5 /INBOX TRAY/PACKAGE/E-MAIL SYMBOL/INCOMING ENVELOPE/ENVELOPE WITH DOWNWARDS ARROW ABOVE
1F4EA CLOSED MAILBOX WITH /LOWERED FLAG/RAISED FLAG
1F4EC OPEN MAILBOX WITH /RAISED FLAG/LOWERED FLAG
1F4EE /POSTBOX/POSTAL HORN/NEWSPAPER
1F4F1 MOBILE /PHONE/PHONE WITH RIGHTWARDS ARROW AT LEFT
1F4F3 /VIBRATION MODE/MOBILE PHONE OFF/NO MOBILE PHONES/ANTENNA WITH BARS/CAMERA/CAMERA WITH FLASH
1F4F9 /VIDEO CAMERA/TELEVISION/RADIO/VIDEOCASSETTE/FILM PROJECTOR/PORTABLE STEREO/PRAYER BEADS
1F500 /TWISTED RIGHTWARDS ARROWS
1F501 CLOCKWISE RIGHTWARDS AND LEFTWARDS OPEN CIRCLE /ARROWS/ARROWS WITH CIRCLED ONE OVERLAY
1F503 /CLOCKWISE DOWNWARDS AND UPWARDS OPEN CIRCLE ARROWS
1F504 /ANTICLOCKWISE DOWNWARDS AND UPWARDS OPEN CIRCLE ARROWS/LOW BRIGHTNESS SYMBOL
1F506 /HIGH BRIGHTNESS SYMBOL/SPEAKER WITH CANCELLATION STROKE/SPEAKER
1F509 SPEAKER WITH /ONE SOUND WAVE/THREE SOUND WAVES
1F50B /BATTERY/ELECTRIC PLUG/LEFT-POINTING MAGNIFYING GLASS/RIGHT-POINTING MAGNIFYING GLASS
1F50F /LOCK WITH INK PEN/CLOSED LOCK WITH KEY/KEY/LOCK/OPEN LOCK/BELL/BELL WITH CANCELLATION STROKE
1F516 /BOOKMARK/LINK SYMBOL/RADIO BUTTON/BACK WITH LEFTWARDS ARROW ABOVE
1F51A /END WITH LEFTWARDS ARROW ABOVE/ON WITH EXCLAMATION MARK WITH LEFT RIGHT ARROW ABOVE
1F51C /SOON WITH RIGHTWARDS ARROW ABOVE/TOP WITH UPWARDS ARROW ABOVE/NO ONE UNDER EIGHTEEN SYMBOL
1F51F /KEYCAP TEN
1F520 INPUT SYMBOL FOR /LATIN CAPITAL LETTERS/LATIN SMALL LETTERS/NUMBERS/SYMBOLS/LATIN LETTERS
1F525 /FIRE/ELECTRIC TORCH/WRENCH/HAMMER/NUT AND BOLT/HOCHO/PISTOL/MICROSCOPE/TELESCOPE
1F52E /CRYSTAL BALL/SIX POINTED STAR WITH MIDDLE DOT/JAPANESE SYMBOL FOR BEGINNER/TRIDENT EMBLEM
1F532 /BLACK SQUARE BUTTON/WHITE SQUARE BUTTON
1F534 LARGE /RED CIRCLE/BLUE CIRCLE/ORANGE DIAMOND/BLUE DIAMOND
1F538 /SMALL ORANGE DIAMOND/SMALL BLUE DIAMOND/UP-POINTING RED TRIANGLE/DOWN-POINTING RED TRIANGLE
1F53C /UP-POINTING SMALL RED TRIANGLE/DOWN-POINTING SMALL RED TRIANGLE
1F53E /LOWER RIGHT SHADOWED WHITE CIRCLE/UPPER RIGHT SHADOWED WHITE CIRCLE/CIRCLED CROSS POMMEE
1F541 CROSS /POMMEE WITH HALF-CIRCLE BELOW/POMMEE
1F543 NOTCHED /LEFT SEMICIRCLE WITH THREE DOTS/RIGHT SEMICIRCLE WITH THREE DOTS
1F545 /SYMBOL FOR MARKS CHAPTER/WHITE LATIN CROSS/HEAVY LATIN CROSS/CELTIC CROSS/OM SYMBOL
1F54A /DOVE OF PEACE/KAABA/MOSQUE/SYNAGOGUE/MENORAH WITH NINE BRANCHES/BOWL OF HYGIEIA
1F550 CLOCK FACE /ONE OCLOCK/TWO OCLOCK/THREE OCLOCK/FOUR OCLOCK/FIVE OCLOCK/SIX OCLOCK
1F556 CLOCK FACE /SEVEN OCLOCK/EIGHT OCLOCK/NINE OCLOCK/TEN OCLOCK/ELEVEN OCLOCK/TWELVE OCLOCK
1F55C CLOCK FACE /ONE-THIRTY/TWO-THIRTY/THREE-THIRTY/FOUR-THIRTY/FIVE-THIRTY/SIX-THIRTY
1F562 CLOCK FACE /SEVEN-THIRTY/EIGHT-THIRTY/NINE-THIRTY/TEN-THIRTY/ELEVEN-THIRTY/TWELVE-THIRTY
1F568 /RIGHT SPEAKER
1F569 RIGHT SPEAKER WITH /ONE SOUND WAVE/THREE SOUND WAVES
1F56B /BULLHORN/BULLHORN WITH SOUND WAVES/RINGING BELL/BOOK/CANDLE/MANTELPIECE CLOCK
1F571 /BLACK SKULL AND CROSSBONES/NO PIRACY/HOLE/MAN IN BUSINESS SUIT LEVITATING/SLEUTH OR SPY
1F576 /DARK SUNGLASSES/SPIDER/SPIDER WEB/JOYSTICK/MAN DANCING/LEFT HAND TELEPHONE RECEIVER
1F57C /TELEPHONE RECEIVER WITH PAGE/RIGHT HAND TELEPHONE RECEIVER/WHITE TOUCHTONE TELEPHONE
1F57F /BLACK TOUCHTONE TELEPHONE/TELEPHONE ON TOP OF MODEM/CLAMSHELL MOBILE PHONE/BACK OF ENVELOPE
1F583 /STAMPED ENVELOPE/ENVELOPE WITH LIGHTNING/FLYING ENVELOPE/PEN OVER STAMPED ENVELOPE
1F587 /LINKED PAPERCLIPS/BLACK PUSHPIN
1F589 LOWER LEFT /PENCIL/BALLPOINT PEN/FOUNTAIN PEN/PAINTBRUSH/CRAYON
1F58E /LEFT WRITING HAND/TURNED OK HAND SIGN/RAISED HAND WITH FINGERS SPLAYED
1F591 REVERSED /RAISED HAND WITH FINGERS SPLAYED/THUMBS UP SIGN/THUMBS DOWN SIGN/VICTORY HAND
1F595 /REVERSED HAND WITH MIDDLE FINGER EXTENDED
1F596 /RAISED HAND WITH PART BETWEEN MIDDLE AND RING FINGERS/WHITE DOWN POINTING LEFT HAND INDEX
1F598 SIDEWAYS WHITE /LEFT POINTING INDEX/RIGHT POINTING INDEX
1F59A SIDEWAYS BLACK /LEFT POINTING INDEX/RIGHT POINTING INDEX
1F59C BLACK /LEFT POINTING BACKHAND INDEX/RIGHT POINTING BACKHAND INDEX
1F59E SIDEWAYS WHITE /UP POINTING INDEX/DOWN POINTING INDEX
1F5A0 SIDEWAYS BLACK /UP POINTING INDEX/DOWN POINTING INDEX
1F5A2 BLACK /UP POINTING BACKHAND INDEX/DOWN POINTING BACKHAND INDEX/HEART
1F5A5 /DESKTOP COMPUTER/KEYBOARD AND MOUSE/THREE NETWORKED COMPUTERS/PRINTER/POCKET CALCULATOR
1F5AA /BLACK HARD SHELL FLOPPY DISK/WHITE HARD SHELL FLOPPY DISK/SOFT SHELL FLOPPY DISK
1F5AD /TAPE CARTRIDGE/WIRED KEYBOARD/ONE BUTTON MOUSE/TWO BUTTON MOUSE/THREE BUTTON MOUSE/TRACKBALL
1F5B3 /OLD PERSONAL COMPUTER/HARD DISK/SCREEN/PRINTER ICON/FAX ICON/OPTICAL DISC ICON
1F5B9 DOCUMENT WITH /TEXT/TEXT AND PICTURE/PICTURE
1F5BC FRAME WITH /PICTURE/TILES/AN X
1F5BF /BLACK FOLDER/FOLDER/OPEN FOLDER/CARD INDEX DIVIDERS/CARD FILE BOX/FILE CABINET
1F5C5 EMPTY /NOTE/NOTE PAGE/NOTE PAD
1F5C8 /NOTE/NOTE PAGE/NOTE PAD
1F5CB EMPTY /DOCUMENT/PAGE/PAGES
1F5CE /DOCUMENT/PAGE/PAGES/WASTEBASKET/SPIRAL NOTE PAD/SPIRAL CALENDAR PAD/DESKTOP WINDOW/MINIMIZE
1F5D6 /MAXIMIZE/OVERLAP/CLOCKWISE RIGHT AND LEFT SEMICIRCLE ARROWS/CANCELLATION X
1F5DA /INCREASE FONT SIZE SYMBOL/DECREASE FONT SIZE SYMBOL/COMPRESSION/OLD KEY/ROLLED-UP NEWSPAPER
1F5DF /PAGE WITH CIRCLED TEXT/STOCK CHART/DAGGER KNIFE/LIPS/SPEAKING HEAD IN SILHOUETTE
1F5E4 THREE RAYS /ABOVE/BELOW/LEFT/RIGHT
1F5E8 /LEFT SPEECH BUBBLE/RIGHT SPEECH BUBBLE/TWO SPEECH BUBBLES/THREE SPEECH BUBBLES
1F5EC /LEFT THOUGHT BUBBLE/RIGHT THOUGHT BUBBLE/LEFT ANGER BUBBLE/RIGHT ANGER BUBBLE/MOOD BUBBLE
1F5F1 LIGHTNING /MOOD BUBBLE/MOOD
1F5F3 BALLOT /BOX WITH BALLOT/SCRIPT X/BOX WITH SCRIPT X/BOLD SCRIPT X/BOX WITH BOLD SCRIPT X
1F5F8 /LIGHT CHECK MARK/BALLOT BOX WITH BOLD CHECK/WORLD MAP/MOUNT FUJI/TOKYO TOWER
1F5FD /STATUE OF LIBERTY/SILHOUETTE OF JAPAN/MOYAI
1F600 GRINNING /FACE/FACE WITH SMILING EYES
1F602 /FACE WITH TEARS OF JOY/SMILING FACE WITH OPEN MOUTH
1F604 SMILING FACE WITH OPEN MOUTH AND /SMILING EYES/COLD SWEAT/TIGHTLY-CLOSED EYES
1F607 SMILING FACE WITH /HALO/HORNS
1F609 /WINKING FACE/SMILING FACE WITH SMILING EYES/FACE SAVOURING DELICIOUS FOOD/RELIEVED FACE
1F60D SMILING FACE WITH /HEART-SHAPED EYES/SUNGLASSES
1F60F /SMIRKING FACE/NEUTRAL FACE/EXPRESSIONLESS FACE/UNAMUSED FACE/FACE WITH COLD SWEAT
1F614 /PENSIVE FACE/CONFUSED FACE/CONFOUNDED FACE/KISSING FACE/FACE THROWING A KISS
1F619 KISSING FACE WITH /SMILING EYES/CLOSED EYES
1F61B FACE WITH STUCK-OUT /TONGUE/TONGUE AND WINKING EYE/TONGUE AND TIGHTLY-CLOSED EYES
1F61E /DISAPPOINTED FACE/WORRIED FACE/ANGRY FACE/POUTING FACE/CRYING FACE/PERSEVERING FACE
1F624 /FACE WITH LOOK OF TRIUMPH/DISAPPOINTED BUT RELIEVED FACE/FROWNING FACE WITH OPEN MOUTH
1F627 /ANGUISHED FACE/FEARFUL FACE/WEARY FACE/SLEEPY FACE/TIRED FACE/GRIMACING FACE
1F62D /LOUDLY CRYING FACE/FACE WITH OPEN MOUTH/HUSHED FACE/FACE WITH OPEN MOUTH AND COLD SWEAT
1F631 /FACE SCREAMING IN FEAR/ASTONISHED FACE/FLUSHED FACE/SLEEPING FACE/DIZZY FACE
1F636 FACE /WITHOUT MOUTH/WITH MEDICAL MASK
1F638 /GRINNING CAT FACE WITH SMILING EYES/CAT FACE WITH TEARS OF JOY
1F63A SMILING CAT FACE WITH /OPEN MOUTH/HEART-SHAPED EYES
1F63C /CAT FACE WITH WRY SMILE/KISSING CAT FACE WITH CLOSED EYES/POUTING CAT FACE/CRYING CAT FACE
1F640 /WEARY CAT FACE/SLIGHTLY FROWNING FACE/SLIGHTLY SMILING FACE/UPSIDE-DOWN FACE
1F644 FACE WITH /ROLLING EYES/NO GOOD GESTURE/OK GESTURE
1F647 /PERSON BOWING DEEPLY/SEE-NO-EVIL MONKEY/HEAR-NO-EVIL MONKEY/SPEAK-NO-EVIL MONKEY
1F64B /HAPPY PERSON RAISING ONE HAND
1F64C PERSON /RAISING BOTH HANDS IN CELEBRATION/FROWNING/WITH POUTING FACE/WITH FOLDED HANDS
1F650 /NORTH WEST POINTING LEAF/SOUTH WEST POINTING LEAF/NORTH EAST POINTING LEAF
1F653 /SOUTH EAST POINTING LEAF/TURNED NORTH WEST POINTING LEAF
1F655 TURNED /SOUTH WEST POINTING LEAF/NORTH EAST POINTING LEAF/SOUTH EAST POINTING LEAF
1F658 /NORTH WEST POINTING VINE LEAF/SOUTH WEST POINTING VINE LEAF/NORTH EAST POINTING VINE LEAF
1F65B /SOUTH EAST POINTING VINE LEAF/HEAVY NORTH WEST POINTING VINE LEAF
1F65D HEAVY /SOUTH WEST POINTING VINE LEAF/NORTH EAST POINTING VINE LEAF
1F65F /HEAVY SOUTH EAST POINTING VINE LEAF/NORTH WEST POINTING BUD/SOUTH WEST POINTING BUD
1F662 /NORTH EAST POINTING BUD/SOUTH EAST POINTING BUD/HEAVY NORTH WEST POINTING BUD
1F665 HEAVY /SOUTH WEST POINTING BUD/NORTH EAST POINTING BUD/SOUTH EAST POINTING BUD
1F668 HOLLOW QUILT SQUARE /ORNAMENT/ORNAMENT IN BLACK SQUARE
1F66A SOLID QUILT SQUARE /ORNAMENT/ORNAMENT IN BLACK SQUARE
1F66C /LEFTWARDS ROCKET/UPWARDS ROCKET/RIGHTWARDS ROCKET/DOWNWARDS ROCKET
1F670 /SCRIPT LIGATURE ET ORNAMENT/HEAVY SCRIPT LIGATURE ET ORNAMENT/LIGATURE OPEN ET ORNAMENT
1F673 /HEAVY LIGATURE OPEN ET ORNAMENT/HEAVY AMPERSAND ORNAMENT/SWASH AMPERSAND ORNAMENT
1F676 SANS-SERIF HEAVY DOUBLE /TURNED COMMA QUOTATION MARK ORNAMENT/COMMA QUOTATION MARK ORNAMENT
1F678 /SANS-SERIF HEAVY LOW DOUBLE COMMA QUOTATION MARK ORNAMENT/HEAVY INTERROBANG ORNAMENT
1F67A /SANS-SERIF INTERROBANG ORNAMENT/HEAVY SANS-SERIF INTERROBANG ORNAMENT
1F67C VERY HEAVY /SOLIDUS/REVERSE SOLIDUS
1F67E /CHECKER BOARD/REVERSE CHECKER BOARD/ROCKET/HELICOPTER/STEAM LOCOMOTIVE/RAILWAY CAR
1F684 HIGH-SPEED /TRAIN/TRAIN WITH BULLET NOSE
1F686 /TRAIN/METRO/LIGHT RAIL/STATION/TRAM/TRAM CAR/BUS/ONCOMING BUS/TROLLEYBUS/BUS STOP/MINIBUS
1F691 /AMBULANCE/FIRE ENGINE/POLICE CAR/ONCOMING POLICE CAR/TAXI/ONCOMING TAXI/AUTOMOBILE
1F698 /ONCOMING AUTOMOBILE/RECREATIONAL VEHICLE/DELIVERY TRUCK/ARTICULATED LORRY/TRACTOR/MONORAIL
1F69E /MOUNTAIN RAILWAY/SUSPENSION RAILWAY/MOUNTAIN CABLEWAY/AERIAL TRAMWAY/SHIP/ROWBOAT/SPEEDBOAT
1F6A5 /HORIZONTAL TRAFFIC LIGHT/VERTICAL TRAFFIC LIGHT/CONSTRUCTION SIGN
1F6A8 /POLICE CARS REVOLVING LIGHT/TRIANGULAR FLAG ON POST/DOOR/NO ENTRY SIGN/SMOKING SYMBOL
1F6AD /NO SMOKING SYMBOL/PUT LITTER IN ITS PLACE SYMBOL/DO NOT LITTER SYMBOL/POTABLE WATER SYMBOL
1F6B1 /NON-POTABLE WATER SYMBOL/BICYCLE/NO BICYCLES/BICYCLIST/MOUNTAIN BICYCLIST/PEDESTRIAN
1F6B7 /NO PEDESTRIANS/CHILDREN CROSSING/MENS SYMBOL/WOMENS SYMBOL/RESTROOM/BABY SYMBOL/TOILET
1F6BE /WATER CLOSET/SHOWER/BATH/BATHTUB/PASSPORT CONTROL/CUSTOMS/BAGGAGE CLAIM/LEFT LUGGAGE
1F6C6 /TRIANGLE WITH ROUNDED CORNERS/PROHIBITED SIGN/CIRCLED INFORMATION SOURCE/BOYS SYMBOL
1F6CA /GIRLS SYMBOL/COUCH AND LAMP/SLEEPING ACCOMMODATION/SHOPPING BAGS/BELLHOP BELL/BED
1F6D0 /PLACE OF WORSHIP/OCTAGONAL SIGN/SHOPPING TROLLEY/STUPA/PAGODA/HINDU TEMPLE/HUT/ELEVATOR
1F6DD /PLAYGROUND SLIDE/WHEEL/RING BUOY/HAMMER AND WRENCH/SHIELD/OIL DRUM/MOTORWAY/RAILWAY TRACK
1F6E5 /MOTOR BOAT
1F6E6 UP-POINTING /MILITARY AIRPLANE/AIRPLANE/SMALL AIRPLANE
1F6E9 /SMALL AIRPLANE/NORTHEAST-POINTING AIRPLANE
1F6EB AIRPLANE /DEPARTURE/ARRIVING
1F6F0 /SATELLITE/ONCOMING FIRE ENGINE/DIESEL LOCOMOTIVE/PASSENGER SHIP/SCOOTER/MOTOR SCOOTER/CANOE
1F6F7 /SLED/FLYING SAUCER/SKATEBOARD/AUTO RICKSHAW/PICKUP TRUCK/ROLLER SKATE
1F700 ALCHEMICAL SYMBOL FOR /QUINTESSENCE/AIR/FIRE/EARTH/WATER/AQUAFORTIS
1F706 ALCHEMICAL SYMBOL FOR AQUA /REGIA/REGIA-2/VITAE/VITAE-2
1F70A ALCHEMICAL SYMBOL FOR /VINEGAR/VINEGAR-2/VINEGAR-3/SULFUR/PHILOSOPHERS SULFUR/BLACK SULFUR
1F710 ALCHEMICAL SYMBOL FOR MERCURY /SUBLIMATE/SUBLIMATE-2/SUBLIMATE-3
1F713 ALCHEMICAL SYMBOL FOR /CINNABAR/SALT/NITRE/VITRIOL/VITRIOL-2/ROCK SALT/ROCK SALT-2/GOLD
1F71B ALCHEMICAL SYMBOL FOR /SILVER/IRON ORE/IRON ORE-2/CROCUS OF IRON/REGULUS OF IRON/COPPER ORE
1F721 ALCHEMICAL SYMBOL FOR /IRON-COPPER ORE/SUBLIMATE OF COPPER/CROCUS OF COPPER
1F724 ALCHEMICAL SYMBOL FOR /CROCUS OF COPPER-2/COPPER ANTIMONIATE/SALT OF COPPER ANTIMONIATE
1F727 ALCHEMICAL SYMBOL FOR /SUBLIMATE OF SALT OF COPPER/VERDIGRIS/TIN ORE/LEAD ORE/ANTIMONY ORE
1F72C ALCHEMICAL SYMBOL FOR /SUBLIMATE OF ANTIMONY/SALT OF ANTIMONY/SUBLIMATE OF SALT OF ANTIMONY
1F72F ALCHEMICAL SYMBOL FOR /VINEGAR OF ANTIMONY/REGULUS OF ANTIMONY/REGULUS OF ANTIMONY-2/REGULUS
1F733 ALCHEMICAL SYMBOL FOR REGULUS-/2/3/4
1F736 ALCHEMICAL SYMBOL FOR /ALKALI/ALKALI-2/MARCASITE/SAL-AMMONIAC/ARSENIC/REALGAR/REALGAR-2
1F73D ALCHEMICAL SYMBOL FOR /AURIPIGMENT/BISMUTH ORE/TARTAR/TARTAR-2/QUICK LIME/BORAX/BORAX-2
1F744 ALCHEMICAL SYMBOL FOR /BORAX-3/ALUM/OIL/SPIRIT/TINCTURE/GUM/WAX/POWDER/CALX/TUTTY
1F74E ALCHEMICAL SYMBOL FOR /CAPUT MORTUUM/SCEPTER OF JOVE/CADUCEUS/TRIDENT/STARRED TRIDENT
1F753 ALCHEMICAL SYMBOL FOR /LODESTONE/SOAP/URINE/HORSE DUNG/ASHES/POT ASHES/BRICK/POWDERED BRICK
1F75B ALCHEMICAL SYMBOL FOR /AMALGAM/STRATUM SUPER STRATUM/STRATUM SUPER STRATUM-2/SUBLIMATION
1F75F ALCHEMICAL SYMBOL FOR /PRECIPITATE/DISTILL/DISSOLVE/DISSOLVE-2/PURIFY/PUTREFACTION/CRUCIBLE
1F766 ALCHEMICAL SYMBOL FOR CRUCIBLE-/2/3/4/5
1F76A ALCHEMICAL SYMBOL FOR /ALEMBIC/BATH OF MARY/BATH OF VAPOURS/RETORT/HOUR/NIGHT/DAY-NIGHT/MONTH
1F772 ALCHEMICAL SYMBOL FOR HALF /DRAM/OUNCE
1F780 BLACK /LEFT-POINTING ISOSCELES RIGHT TRIANGLE/UP-POINTING ISOSCELES RIGHT TRIANGLE
1F782 BLACK /RIGHT-POINTING ISOSCELES RIGHT TRIANGLE/DOWN-POINTING ISOSCELES RIGHT TRIANGLE
1F784 /BLACK SLIGHTLY SMALL CIRCLE/MEDIUM BOLD WHITE CIRCLE/BOLD WHITE CIRCLE/HEAVY WHITE CIRCLE
1F788 /VERY HEAVY WHITE CIRCLE/EXTREMELY HEAVY WHITE CIRCLE
1F78A /WHITE CIRCLE CONTAINING BLACK SMALL CIRCLE/ROUND TARGET/BLACK TINY SQUARE
1F78D /BLACK SLIGHTLY SMALL SQUARE/LIGHT WHITE SQUARE/MEDIUM WHITE SQUARE/BOLD WHITE SQUARE
1F791 /HEAVY WHITE SQUARE/VERY HEAVY WHITE SQUARE/EXTREMELY HEAVY WHITE SQUARE
1F794 WHITE SQUARE CONTAINING BLACK /VERY SMALL SQUARE/MEDIUM SQUARE
1F796 /SQUARE TARGET
1F797 BLACK /TINY DIAMOND/VERY SMALL DIAMOND/MEDIUM SMALL DIAMOND
1F79A WHITE DIAMOND CONTAINING BLACK /VERY SMALL DIAMOND/MEDIUM DIAMOND
1F79C /DIAMOND TARGET
1F79D BLACK /TINY LOZENGE/VERY SMALL LOZENGE/MEDIUM SMALL LOZENGE
1F7A0 /WHITE LOZENGE CONTAINING BLACK SMALL LOZENGE/THIN GREEK CROSS/LIGHT GREEK CROSS
1F7A3 /MEDIUM GREEK CROSS/BOLD GREEK CROSS/VERY BOLD GREEK CROSS/VERY HEAVY GREEK CROSS
1F7A7 /EXTREMELY HEAVY GREEK CROSS/THIN SALTIRE/LIGHT SALTIRE/MEDIUM SALTIRE/BOLD SALTIRE
1F7AC /HEAVY SALTIRE/VERY HEAVY SALTIRE/EXTREMELY HEAVY SALTIRE/LIGHT FIVE SPOKED ASTERISK
1F7B0 /MEDIUM FIVE SPOKED ASTERISK/BOLD FIVE SPOKED ASTERISK/HEAVY FIVE SPOKED ASTERISK
1F7B3 /VERY HEAVY FIVE SPOKED ASTERISK/EXTREMELY HEAVY FIVE SPOKED ASTERISK
1F7B5 /LIGHT SIX SPOKED ASTERISK/MEDIUM SIX SPOKED ASTERISK/BOLD SIX SPOKED ASTERISK
1F7B8 /HEAVY SIX SPOKED ASTERISK/VERY HEAVY SIX SPOKED ASTERISK/EXTREMELY HEAVY SIX SPOKED ASTERISK
1F7BB /LIGHT EIGHT SPOKED ASTERISK/MEDIUM EIGHT SPOKED ASTERISK/BOLD EIGHT SPOKED ASTERISK
1F7BE /HEAVY EIGHT SPOKED ASTERISK/VERY HEAVY EIGHT SPOKED ASTERISK/LIGHT THREE POINTED BLACK STAR
1F7C1 /MEDIUM THREE POINTED BLACK STAR/THREE POINTED BLACK STAR/MEDIUM THREE POINTED PINWHEEL STAR
1F7C4 /LIGHT FOUR POINTED BLACK STAR/MEDIUM FOUR POINTED BLACK STAR/FOUR POINTED BLACK STAR
1F7C7 /MEDIUM FOUR POINTED PINWHEEL STAR/REVERSE LIGHT FOUR POINTED PINWHEEL STAR
1F7C9 /LIGHT FIVE POINTED BLACK STAR/HEAVY FIVE POINTED BLACK STAR/MEDIUM SIX POINTED BLACK STAR
1F7CC /HEAVY SIX POINTED BLACK STAR/SIX POINTED PINWHEEL STAR/MEDIUM EIGHT POINTED BLACK STAR
1F7CF /HEAVY EIGHT POINTED BLACK STAR/VERY HEAVY EIGHT POINTED BLACK STAR
1F7D1 /HEAVY EIGHT POINTED PINWHEEL STAR/LIGHT TWELVE POINTED BLACK STAR
1F7D3 HEAVY TWELVE POINTED /BLACK STAR/PINWHEEL STAR
1F7D5 /CIRCLED TRIANGLE/NEGATIVE CIRCLED TRIANGLE/CIRCLED SQUARE/NEGATIVE CIRCLED SQUARE
1F7E0 LARGE /ORANGE CIRCLE/YELLOW CIRCLE/GREEN CIRCLE/PURPLE CIRCLE/BROWN CIRCLE/RED SQUARE
1F7E6 LARGE /BLUE SQUARE/ORANGE SQUARE/YELLOW SQUARE/GREEN SQUARE/PURPLE SQUARE/BROWN SQUARE
1F7F0 /HEAVY EQUALS SIGN
1F800 /LEFTWARDS ARROW WITH SMALL TRIANGLE ARROWHEAD/UPWARDS ARROW WITH SMALL TRIANGLE ARROWHEAD
1F802 /RIGHTWARDS ARROW WITH SMALL TRIANGLE ARROWHEAD/DOWNWARDS ARROW WITH SMALL TRIANGLE ARROWHEAD
1F804 /LEFTWARDS ARROW WITH MEDIUM TRIANGLE ARROWHEAD/UPWARDS ARROW WITH MEDIUM TRIANGLE ARROWHEAD
1F806 /RIGHTWARDS ARROW WITH MEDIUM TRIANGLE ARROWHEAD
1F807 /DOWNWARDS ARROW WITH MEDIUM TRIANGLE ARROWHEAD/LEFTWARDS ARROW WITH LARGE TRIANGLE ARROWHEAD
1F809 /UPWARDS ARROW WITH LARGE TRIANGLE ARROWHEAD/RIGHTWARDS ARROW WITH LARGE TRIANGLE ARROWHEAD
1F80B /DOWNWARDS ARROW WITH LARGE TRIANGLE ARROWHEAD
1F810 /LEFTWARDS ARROW WITH SMALL EQUILATERAL ARROWHEAD
1F811 /UPWARDS ARROW WITH SMALL EQUILATERAL ARROWHEAD
1F812 /RIGHTWARDS ARROW WITH SMALL EQUILATERAL ARROWHEAD
1F813 /DOWNWARDS ARROW WITH SMALL EQUILATERAL ARROWHEAD/LEFTWARDS ARROW WITH EQUILATERAL ARROWHEAD
1F815 /UPWARDS ARROW WITH EQUILATERAL ARROWHEAD/RIGHTWARDS ARROW WITH EQUILATERAL ARROWHEAD
1F817 /DOWNWARDS ARROW WITH EQUILATERAL ARROWHEAD
1F818 HEAVY /LEFTWARDS ARROW WITH EQUILATERAL ARROWHEAD/UPWARDS ARROW WITH EQUILATERAL ARROWHEAD
1F81A HEAVY /RIGHTWARDS ARROW WITH EQUILATERAL ARROWHEAD/DOWNWARDS ARROW WITH EQUILATERAL ARROWHEAD
1F81C /HEAVY LEFTWARDS ARROW WITH LARGE EQUILATERAL ARROWHEAD
1F81D /HEAVY UPWARDS ARROW WITH LARGE EQUILATERAL ARROWHEAD
1F81E /HEAVY RIGHTWARDS ARROW WITH LARGE EQUILATERAL ARROWHEAD
1F81F /HEAVY DOWNWARDS ARROW WITH LARGE EQUILATERAL ARROWHEAD
1F820 /LEFTWARDS TRIANGLE-HEADED ARROW WITH NARROW SHAFT
1F821 /UPWARDS TRIANGLE-HEADED ARROW WITH NARROW SHAFT
1F822 /RIGHTWARDS TRIANGLE-HEADED ARROW WITH NARROW SHAFT
1F823 /DOWNWARDS TRIANGLE-HEADED ARROW WITH NARROW SHAFT
1F824 /LEFTWARDS TRIANGLE-HEADED ARROW WITH MEDIUM SHAFT
1F825 /UPWARDS TRIANGLE-HEADED ARROW WITH MEDIUM SHAFT
1F826 /RIGHTWARDS TRIANGLE-HEADED ARROW WITH MEDIUM SHAFT
1F827 /DOWNWARDS TRIANGLE-HEADED ARROW WITH MEDIUM SHAFT
1F828 /LEFTWARDS TRIANGLE-HEADED ARROW WITH BOLD SHAFT
1F829 /UPWARDS TRIANGLE-HEADED ARROW WITH BOLD SHAFT
1F82A /RIGHTWARDS TRIANGLE-HEADED ARROW WITH BOLD SHAFT
1F82B /DOWNWARDS TRIANGLE-HEADED ARROW WITH BOLD SHAFT
1F82C /LEFTWARDS TRIANGLE-HEADED ARROW WITH HEAVY SHAFT
1F82D /UPWARDS TRIANGLE-HEADED ARROW WITH HEAVY SHAFT
1F82E /RIGHTWARDS TRIANGLE-HEADED ARROW WITH HEAVY SHAFT
1F82F /DOWNWARDS TRIANGLE-HEADED ARROW WITH HEAVY SHAFT
1F830 /LEFTWARDS TRIANGLE-HEADED ARROW WITH VERY HEAVY SHAFT
1F831 /UPWARDS TRIANGLE-HEADED ARROW WITH VERY HEAVY SHAFT
1F832 /RIGHTWARDS TRIANGLE-HEADED ARROW WITH VERY HEAVY SHAFT
1F833 /DOWNWARDS TRIANGLE-HEADED ARROW WITH VERY HEAVY SHAFT/LEFTWARDS FINGER-POST ARROW
1F835 /UPWARDS FINGER-POST ARROW/RIGHTWARDS FINGER-POST ARROW/DOWNWARDS FINGER-POST ARROW
1F838 /LEFTWARDS SQUARED ARROW/UPWARDS SQUARED ARROW/RIGHTWARDS SQUARED ARROW
1F83B /DOWNWARDS SQUARED ARROW/LEFTWARDS COMPRESSED ARROW/UPWARDS COMPRESSED ARROW
1F83E /RIGHTWARDS COMPRESSED ARROW/DOWNWARDS COMPRESSED ARROW/LEFTWARDS HEAVY COMPRESSED ARROW
1F841 /UPWARDS HEAVY COMPRESSED ARROW/RIGHTWARDS HEAVY COMPRESSED ARROW
1F843 /DOWNWARDS HEAVY COMPRESSED ARROW/LEFTWARDS HEAVY ARROW/UPWARDS HEAVY ARROW
1F846 /RIGHTWARDS HEAVY ARROW/DOWNWARDS HEAVY ARROW
1F850 /LEFTWARDS SANS-SERIF ARROW/UPWARDS SANS-SERIF ARROW/RIGHTWARDS SANS-SERIF ARROW
1F853 /DOWNWARDS SANS-SERIF ARROW/NORTH WEST SANS-SERIF ARROW/NORTH EAST SANS-SERIF ARROW
1F856 SOUTH /EAST SANS-SERIF ARROW/WEST SANS-SERIF ARROW
1F858 /LEFT RIGHT SANS-SERIF ARROW/UP DOWN SANS-SERIF ARROW
1F860 WIDE-HEADED /LEFTWARDS LIGHT BARB ARROW/UPWARDS LIGHT BARB ARROW/RIGHTWARDS LIGHT BARB ARROW
1F863 /WIDE-HEADED DOWNWARDS LIGHT BARB ARROW
1F864 WIDE-HEADED NORTH /WEST LIGHT BARB ARROW/EAST LIGHT BARB ARROW
1F866 WIDE-HEADED /SOUTH EAST LIGHT BARB ARROW/SOUTH WEST LIGHT BARB ARROW/LEFTWARDS BARB ARROW
1F869 WIDE-HEADED /UPWARDS BARB ARROW/RIGHTWARDS BARB ARROW/DOWNWARDS BARB ARROW
1F86C WIDE-HEADED /NORTH WEST BARB ARROW/NORTH EAST BARB ARROW/SOUTH EAST BARB ARROW
1F86F WIDE-HEADED /SOUTH WEST BARB ARROW/LEFTWARDS MEDIUM BARB ARROW/UPWARDS MEDIUM BARB ARROW
1F872 WIDE-HEADED /RIGHTWARDS MEDIUM BARB ARROW/DOWNWARDS MEDIUM BARB ARROW
1F874 WIDE-HEADED NORTH /WEST MEDIUM BARB ARROW/EAST MEDIUM BARB ARROW
1F876 WIDE-HEADED SOUTH /EAST MEDIUM BARB ARROW/WEST MEDIUM BARB ARROW
1F878 WIDE-HEADED /LEFTWARDS HEAVY BARB ARROW/UPWARDS HEAVY BARB ARROW/RIGHTWARDS HEAVY BARB ARROW
1F87B /WIDE-HEADED DOWNWARDS HEAVY BARB ARROW
1F87C WIDE-HEADED NORTH /WEST HEAVY BARB ARROW/EAST HEAVY BARB ARROW
1F87E WIDE-HEADED SOUTH /EAST HEAVY BARB ARROW/WEST HEAVY BARB ARROW
1F880 WIDE-HEADED /LEFTWARDS VERY HEAVY BARB ARROW/UPWARDS VERY HEAVY BARB ARROW
1F882 WIDE-HEADED /RIGHTWARDS VERY HEAVY BARB ARROW/DOWNWARDS VERY HEAVY BARB ARROW
1F884 WIDE-HEADED NORTH /WEST VERY HEAVY BARB ARROW/EAST VERY HEAVY BARB ARROW
1F886 WIDE-HEADED SOUTH /EAST VERY HEAVY BARB ARROW/WEST VERY HEAVY BARB ARROW
1F890 /LEFTWARDS TRIANGLE ARROWHEAD/UPWARDS TRIANGLE ARROWHEAD/RIGHTWARDS TRIANGLE ARROWHEAD
1F893 /DOWNWARDS TRIANGLE ARROWHEAD/LEFTWARDS WHITE ARROW WITHIN TRIANGLE ARROWHEAD
1F895 /UPWARDS WHITE ARROW WITHIN TRIANGLE ARROWHEAD
1F896 /RIGHTWARDS WHITE ARROW WITHIN TRIANGLE ARROWHEAD
1F897 /DOWNWARDS WHITE ARROW WITHIN TRIANGLE ARROWHEAD/LEFTWARDS ARROW WITH NOTCHED TAIL
1F899 /UPWARDS ARROW WITH NOTCHED TAIL/RIGHTWARDS ARROW WITH NOTCHED TAIL
1F89B /DOWNWARDS ARROW WITH NOTCHED TAIL
1F89C HEAVY ARROW SHAFT WIDTH /ONE/TWO THIRDS/ONE HALF/ONE THIRD
1F8A0 /LEFTWARDS BOTTOM-SHADED WHITE ARROW/RIGHTWARDS BOTTOM SHADED WHITE ARROW
1F8A2 /LEFTWARDS TOP SHADED WHITE ARROW/RIGHTWARDS TOP SHADED WHITE ARROW
1F8A4 /LEFTWARDS LEFT-SHADED WHITE ARROW/RIGHTWARDS RIGHT-SHADED WHITE ARROW
1F8A6 /LEFTWARDS RIGHT-SHADED WHITE ARROW/RIGHTWARDS LEFT-SHADED WHITE ARROW
1F8A8 /LEFTWARDS BACK-TILTED SHADOWED WHITE ARROW/RIGHTWARDS BACK-TILTED SHADOWED WHITE ARROW
1F8AA /LEFTWARDS FRONT-TILTED SHADOWED WHITE ARROW/RIGHTWARDS FRONT-TILTED SHADOWED WHITE ARROW
1F8AC WHITE ARROW SHAFT WIDTH /ONE/TWO THIRDS
1F8B0 ARROW POINTING /UPWARDS THEN NORTH WEST/RIGHTWARDS THEN CURVING SOUTH WEST
1F900 CIRCLED CROSS /FORMEE WITH FOUR DOTS/FORMEE WITH TWO DOTS/FORMEE
1F903 LEFT HALF CIRCLE WITH /FOUR DOTS/THREE DOTS/TWO DOTS/DOT
1F907 /LEFT HALF CIRCLE
1F908 DOWNWARD FACING /HOOK/NOTCHED HOOK/HOOK WITH DOT/NOTCHED HOOK WITH DOT
1F90C /PINCHED FINGERS/WHITE HEART/BROWN HEART/PINCHING HAND/ZIPPER-MOUTH FACE/MONEY-MOUTH FACE
1F912 /FACE WITH THERMOMETER/NERD FACE/THINKING FACE/FACE WITH HEAD-BANDAGE/ROBOT FACE/HUGGING FACE
1F918 /SIGN OF THE HORNS/CALL ME HAND/RAISED BACK OF HAND/LEFT-FACING FIST/RIGHT-FACING FIST
1F91D /HANDSHAKE/HAND WITH INDEX AND MIDDLE FINGERS CROSSED/I LOVE YOU HAND SIGN
1F920 /FACE WITH COWBOY HAT/CLOWN FACE/NAUSEATED FACE/ROLLING ON THE FLOOR LAUGHING/DROOLING FACE
1F925 /LYING FACE/FACE PALM/SNEEZING FACE/FACE WITH ONE EYEBROW RAISED
1F929 GRINNING FACE WITH /STAR EYES/ONE LARGE AND ONE SMALL EYE
1F92B /FACE WITH FINGER COVERING CLOSED LIPS/SERIOUS FACE WITH SYMBOLS COVERING MOUTH
1F92D /SMILING FACE WITH SMILING EYES AND HAND COVERING MOUTH/FACE WITH OPEN MOUTH VOMITING
1F92F /SHOCKED FACE WITH EXPLODING HEAD/PREGNANT WOMAN/BREAST-FEEDING/PALMS UP TOGETHER/SELFIE
1F934 /PRINCE/MAN IN TUXEDO/MOTHER CHRISTMAS/SHRUG/PERSON DOING CARTWHEEL/JUGGLING/FENCER
1F93B /MODERN PENTATHLON/WRESTLERS/WATER POLO/HANDBALL/DIVING MASK/WILTED FLOWER
1F941 /DRUM WITH DRUMSTICKS/CLINKING GLASSES/TUMBLER GLASS/SPOON/GOAL NET/RIFLE/FIRST PLACE MEDAL
1F948 /SECOND PLACE MEDAL/THIRD PLACE MEDAL/BOXING GLOVE/MARTIAL ARTS UNIFORM/CURLING STONE
1F94D /LACROSSE STICK AND BALL/SOFTBALL/FLYING DISC/CROISSANT/AVOCADO/CUCUMBER/BACON/POTATO/CARROT
1F956 /BAGUETTE BREAD/GREEN SALAD/SHALLOW PAN OF FOOD/STUFFED FLATBREAD/EGG/GLASS OF MILK/PEANUTS
1F95D /KIWIFRUIT/PANCAKES/DUMPLING/FORTUNE COOKIE/TAKEOUT BOX/CHOPSTICKS/BOWL WITH SPOON
1F964 /CUP WITH STRAW/COCONUT/BROCCOLI/PIE/PRETZEL/CUT OF MEAT/SANDWICH/CANNED FOOD/LEAFY GREEN
1F96D /MANGO/MOON CAKE/BAGEL/SMILING FACE WITH SMILING EYES AND THREE HEARTS/YAWNING FACE
1F972 /SMILING FACE WITH TEAR
1F973 FACE WITH /PARTY HORN AND PARTY HAT/UNEVEN EYES AND WAVY MOUTH
1F975 /OVERHEATED FACE/FREEZING FACE/NINJA/DISGUISED FACE/FACE HOLDING BACK TEARS
1F97A /FACE WITH PLEADING EYES/SARI/LAB COAT/GOGGLES/HIKING BOOT/FLAT SHOE/CRAB/LION FACE/SCORPION
1F983 /TURKEY/UNICORN FACE/EAGLE/DUCK/BAT/SHARK/OWL/FOX FACE/BUTTERFLY/DEER/GORILLA/LIZARD
1F98F /RHINOCEROS/SHRIMP/SQUID/GIRAFFE FACE/ZEBRA FACE/HEDGEHOG/SAUROPOD/T-REX/CRICKET/KANGAROO
1F999 /LLAMA/PEACOCK/HIPPOPOTAMUS/PARROT/RACCOON/LOBSTER/MOSQUITO/MICROBE/BADGER/SWAN/MAMMOTH/DODO
1F9A5 /SLOTH/OTTER/ORANGUTAN/SKUNK/FLAMINGO/OYSTER/BEAVER/BISON/SEAL/GUIDE DOG/PROBING CANE
1F9B0 EMOJI COMPONENT /RED HAIR/CURLY HAIR/BALD/WHITE HAIR
1F9B4 /BONE/LEG/FOOT/TOOTH/SUPERHERO/SUPERVILLAIN/SAFETY VEST/EAR WITH HEARING AID
1F9BC /MOTORIZED WHEELCHAIR/MANUAL WHEELCHAIR
1F9BE MECHANICAL /ARM/LEG
1F9C0 /CHEESE WEDGE/CUPCAKE/SALT SHAKER/BEVERAGE BOX/GARLIC/ONION/FALAFEL/WAFFLE/BUTTER/MATE DRINK
1F9CA /ICE CUBE/BUBBLE TEA/TROLL/STANDING PERSON/KNEELING PERSON/DEAF PERSON/FACE WITH MONOCLE
1F9D1 /ADULT/CHILD/OLDER ADULT/BEARDED PERSON
1F9D5 PERSON /WITH HEADSCARF/IN STEAMY ROOM/CLIMBING/IN LOTUS POSITION
1F9D9 /MAGE/FAIRY/VAMPIRE/MERPERSON/ELF/GENIE/ZOMBIE/BRAIN/ORANGE HEART/BILLED CAP/SCARF/GLOVES
1F9E5 /COAT/SOCKS/RED GIFT ENVELOPE/FIRECRACKER/JIGSAW PUZZLE PIECE/TEST TUBE/PETRI DISH
1F9EC /DNA DOUBLE HELIX/COMPASS/ABACUS/FIRE EXTINGUISHER/TOOLBOX/BRICK/MAGNET/LUGGAGE/LOTION BOTTLE
1F9F5 /SPOOL OF THREAD/BALL OF YARN/SAFETY PIN/TEDDY BEAR/BROOM/BASKET/ROLL OF PAPER/BAR OF SOAP
1F9FD /SPONGE/RECEIPT/NAZAR AMULET
1FA00 NEUTRAL CHESS /KING/QUEEN/ROOK/BISHOP/KNIGHT/PAWN
1FA06 /WHITE CHESS KNIGHT ROTATED FORTY-FIVE DEGREES/BLACK CHESS KNIGHT ROTATED FORTY-FIVE DEGREES
1FA08 /NEUTRAL CHESS KNIGHT ROTATED FORTY-FIVE DEGREES
1FA09 WHITE CHESS /KING ROTATED NINETY DEGREES/QUEEN ROTATED NINETY DEGREES
1FA0B WHITE CHESS /ROOK ROTATED NINETY DEGREES/BISHOP ROTATED NINETY DEGREES
1FA0D WHITE CHESS /KNIGHT ROTATED NINETY DEGREES/PAWN ROTATED NINETY DEGREES
1FA0F BLACK CHESS /KING ROTATED NINETY DEGREES/QUEEN ROTATED NINETY DEGREES
1FA11 BLACK CHESS /ROOK ROTATED NINETY DEGREES/BISHOP ROTATED NINETY DEGREES
1FA13 BLACK CHESS /KNIGHT ROTATED NINETY DEGREES/PAWN ROTATED NINETY DEGREES
1FA15 NEUTRAL CHESS /KING ROTATED NINETY DEGREES/QUEEN ROTATED NINETY DEGREES
1FA17 NEUTRAL CHESS /ROOK ROTATED NINETY DEGREES/BISHOP ROTATED NINETY DEGREES
1FA19 NEUTRAL CHESS /KNIGHT ROTATED NINETY DEGREES/PAWN ROTATED NINETY DEGREES
1FA1B /WHITE CHESS KNIGHT ROTATED ONE HUNDRED THIRTY-FIVE DEGREES
1FA1C /BLACK CHESS KNIGHT ROTATED ONE HUNDRED THIRTY-FIVE DEGREES
1FA1D /NEUTRAL CHESS KNIGHT ROTATED ONE HUNDRED THIRTY-FIVE DEGREES
1FA1E WHITE CHESS TURNED /KING/QUEEN/ROOK/BISHOP/KNIGHT/PAWN
1FA24 BLACK CHESS TURNED /KING/QUEEN/ROOK/BISHOP/KNIGHT/PAWN
1FA2A NEUTRAL CHESS TURNED /KING/QUEEN/ROOK/BISHOP/KNIGHT/PAWN
1FA30 /WHITE CHESS KNIGHT ROTATED TWO HUNDRED TWENTY-FIVE DEGREES
1FA31 /BLACK CHESS KNIGHT ROTATED TWO HUNDRED TWENTY-FIVE DEGREES
1FA32 /NEUTRAL CHESS KNIGHT ROTATED TWO HUNDRED TWENTY-FIVE DEGREES
1FA33 /WHITE CHESS KING ROTATED TWO HUNDRED SEVENTY DEGREES
1FA34 /WHITE CHESS QUEEN ROTATED TWO HUNDRED SEVENTY DEGREES
1FA35 /WHITE CHESS ROOK ROTATED TWO HUNDRED SEVENTY DEGREES
1FA36 /WHITE CHESS BISHOP ROTATED TWO HUNDRED SEVENTY DEGREES
1FA37 /WHITE CHESS KNIGHT ROTATED TWO HUNDRED SEVENTY DEGREES
1FA38 /WHITE CHESS PAWN ROTATED TWO HUNDRED SEVENTY DEGREES
1FA39 /BLACK CHESS KING ROTATED TWO HUNDRED SEVENTY DEGREES
1FA3A /BLACK CHESS QUEEN ROTATED TWO HUNDRED SEVENTY DEGREES
1FA3B /BLACK CHESS ROOK ROTATED TWO HUNDRED SEVENTY DEGREES
1FA3C /BLACK CHESS BISHOP ROTATED TWO HUNDRED SEVENTY DEGREES
1FA3D /BLACK CHESS KNIGHT ROTATED TWO HUNDRED SEVENTY DEGREES
1FA3E /BLACK CHESS PAWN ROTATED TWO HUNDRED SEVENTY DEGREES
1FA3F /NEUTRAL CHESS KING ROTATED TWO HUNDRED SEVENTY DEGREES
1FA40 /NEUTRAL CHESS QUEEN ROTATED TWO HUNDRED SEVENTY DEGREES
1FA41 /NEUTRAL CHESS ROOK ROTATED TWO HUNDRED SEVENTY DEGREES
1FA42 /NEUTRAL CHESS BISHOP ROTATED TWO HUNDRED SEVENTY DEGREES
1FA43 /NEUTRAL CHESS KNIGHT ROTATED TWO HUNDRED SEVENTY DEGREES
1FA44 /NEUTRAL CHESS PAWN ROTATED TWO HUNDRED SEVENTY DEGREES
1FA45 /WHITE CHESS KNIGHT ROTATED THREE HUNDRED FIFTEEN DEGREES
1FA46 /BLACK CHESS KNIGHT ROTATED THREE HUNDRED FIFTEEN DEGREES
1FA47 /NEUTRAL CHESS KNIGHT ROTATED THREE HUNDRED FIFTEEN DEGREES/WHITE CHESS EQUIHOPPER
1FA49 /BLACK CHESS EQUIHOPPER/NEUTRAL CHESS EQUIHOPPER
1FA4B /WHITE CHESS EQUIHOPPER ROTATED NINETY DEGREES/BLACK CHESS EQUIHOPPER ROTATED NINETY DEGREES
1FA4D /NEUTRAL CHESS EQUIHOPPER ROTATED NINETY DEGREES
1FA4E WHITE CHESS KNIGHT-/QUEEN/ROOK/BISHOP
1FA51 BLACK CHESS KNIGHT-/QUEEN/ROOK/BISHOP
1FA60 XIANGQI RED /GENERAL/MANDARIN/ELEPHANT/HORSE/CHARIOT/CANNON/SOLDIER
1FA67 XIANGQI BLACK /GENERAL/MANDARIN/ELEPHANT/HORSE/CHARIOT/CANNON/SOLDIER
1FA70 /BALLET SHOES/ONE-PIECE SWIMSUIT/BRIEFS/SHORTS/THONG SANDAL
1FA78 /DROP OF BLOOD/ADHESIVE BANDAGE/STETHOSCOPE/X-RAY/CRUTCH
1FA80 /YO-YO/KITE/PARACHUTE/BOOMERANG/MAGIC WAND/PINATA/NESTING DOLLS
1FA90 /RINGED PLANET/CHAIR/RAZOR/AXE/DIYA LAMP/BANJO/MILITARY HELMET/ACCORDION/LONG DRUM/COIN
1FA9A /CARPENTRY SAW/SCREWDRIVER/LADDER/HOOK/MIRROR/WINDOW/PLUNGER/SEWING NEEDLE/KNOT/BUCKET
1FAA4 /MOUSE TRAP/TOOTHBRUSH/HEADSTONE/PLACARD/ROCK/MIRROR BALL/IDENTIFICATION CARD/LOW BATTERY
1FAAC /HAMSA
1FAB0 /FLY/WORM/BEETLE/COCKROACH/POTTED PLANT/WOOD/FEATHER/LOTUS/CORAL/EMPTY NEST/NEST WITH EGGS
1FAC0 /ANATOMICAL HEART/LUNGS/PEOPLE HUGGING/PREGNANT MAN/PREGNANT PERSON/PERSON WITH CROWN
1FAD0 /BLUEBERRIES/BELL PEPPER/OLIVE/FLATBREAD/TAMALE/FONDUE/TEAPOT/POURING LIQUID/BEANS/JAR
1FAE0 /MELTING FACE/SALUTING FACE
1FAE2 FACE WITH /OPEN EYES AND HAND OVER MOUTH/PEEKING EYE/DIAGONAL MOUTH
1FAE5 /DOTTED LINE FACE/BITING LIP/BUBBLES
1FAF0 /HAND WITH INDEX FINGER AND THUMB CROSSED/RIGHTWARDS HAND/LEFTWARDS HAND/PALM DOWN HAND
1FAF4 /PALM UP HAND/INDEX POINTING AT THE VIEWER/HEART HANDS
1FB00 BLOCK SEXTANT-/1/2/12/3/13/23/123/4/14/24/124/34/134/234/1234/5/15/25/125/35/235/1235/45/145
1FB18 BLOCK SEXTANT-/245/1245/345/1345/2345/12345/6/16/26/126/36/136/236/1236/46/146/1246/346/1346
1FB2B BLOCK SEXTANT-/2346/12346/56/156/256/1256/356/1356/2356/12356/456/1456/2456/12456/3456/13456
1FB3B /BLOCK SEXTANT-23456
1FB3C LOWER LEFT BLOCK DIAGONAL LOWER MIDDLE LEFT TO LOWER /CENTRE/RIGHT
1FB3E LOWER LEFT BLOCK DIAGONAL UPPER MIDDLE LEFT TO LOWER /CENTRE/RIGHT
1FB40 /LOWER LEFT BLOCK DIAGONAL UPPER LEFT TO LOWER CENTRE
1FB41 LOWER RIGHT BLOCK DIAGONAL UPPER MIDDLE LEFT TO UPPER /CENTRE/RIGHT
1FB43 LOWER RIGHT BLOCK DIAGONAL LOWER MIDDLE LEFT TO UPPER /CENTRE/RIGHT
1FB45 LOWER RIGHT BLOCK DIAGONAL LOWER /LEFT TO UPPER CENTRE/MIDDLE LEFT TO UPPER MIDDLE RIGHT
1FB47 LOWER RIGHT BLOCK DIAGONAL LOWER /CENTRE TO LOWER MIDDLE RIGHT/LEFT TO LOWER MIDDLE RIGHT
1FB49 LOWER RIGHT BLOCK DIAGONAL LOWER /CENTRE TO UPPER MIDDLE RIGHT/LEFT TO UPPER MIDDLE RIGHT
1FB4B /LOWER RIGHT BLOCK DIAGONAL LOWER CENTRE TO UPPER RIGHT
1FB4C LOWER LEFT BLOCK DIAGONAL UPPER /CENTRE TO UPPER MIDDLE RIGHT/LEFT TO UPPER MIDDLE RIGHT
1FB4E LOWER LEFT BLOCK DIAGONAL UPPER /CENTRE TO LOWER MIDDLE RIGHT/LEFT TO LOWER MIDDLE RIGHT
1FB50 LOWER LEFT BLOCK DIAGONAL UPPER /CENTRE TO LOWER RIGHT/MIDDLE LEFT TO LOWER MIDDLE RIGHT
1FB52 UPPER RIGHT BLOCK DIAGONAL LOWER MIDDLE LEFT TO LOWER /CENTRE/RIGHT
1FB54 UPPER RIGHT BLOCK DIAGONAL UPPER MIDDLE LEFT TO LOWER /CENTRE/RIGHT
1FB56 /UPPER RIGHT BLOCK DIAGONAL UPPER LEFT TO LOWER CENTRE
1FB57 UPPER LEFT BLOCK DIAGONAL UPPER MIDDLE LEFT TO UPPER /CENTRE/RIGHT
1FB59 UPPER LEFT BLOCK DIAGONAL LOWER MIDDLE LEFT TO UPPER /CENTRE/RIGHT
1FB5B UPPER LEFT BLOCK DIAGONAL LOWER /LEFT TO UPPER CENTRE/MIDDLE LEFT TO UPPER MIDDLE RIGHT
1FB5D UPPER LEFT BLOCK DIAGONAL LOWER /CENTRE TO LOWER MIDDLE RIGHT/LEFT TO LOWER MIDDLE RIGHT
1FB5F UPPER LEFT BLOCK DIAGONAL LOWER /CENTRE TO UPPER MIDDLE RIGHT/LEFT TO UPPER MIDDLE RIGHT
1FB61 /UPPER LEFT BLOCK DIAGONAL LOWER CENTRE TO UPPER RIGHT
1FB62 UPPER RIGHT BLOCK DIAGONAL UPPER /CENTRE TO UPPER MIDDLE RIGHT/LEFT TO UPPER MIDDLE RIGHT
1FB64 UPPER RIGHT BLOCK DIAGONAL UPPER /CENTRE TO LOWER MIDDLE RIGHT/LEFT TO LOWER MIDDLE RIGHT
1FB66 UPPER RIGHT BLOCK DIAGONAL UPPER /CENTRE TO LOWER RIGHT/MIDDLE LEFT TO LOWER MIDDLE RIGHT
1FB68 /UPPER AND RIGHT AND LOWER TRIANGULAR THREE QUARTERS BLOCK
1FB69 /LEFT AND LOWER AND RIGHT TRIANGULAR THREE QUARTERS BLOCK
1FB6A /UPPER AND LEFT AND LOWER TRIANGULAR THREE QUARTERS BLOCK
1FB6B LEFT /AND UPPER AND RIGHT TRIANGULAR THREE QUARTERS BLOCK/TRIANGULAR ONE QUARTER BLOCK
1FB6D /UPPER TRIANGULAR ONE QUARTER BLOCK/RIGHT TRIANGULAR ONE QUARTER BLOCK
1FB6F /LOWER TRIANGULAR ONE QUARTER BLOCK
1FB70 VERTICAL ONE EIGHTH BLOCK-/2/3/4/5/6/7
1FB76 HORIZONTAL ONE EIGHTH BLOCK-/2/3/4/5/6/7
1FB7C LEFT AND /LOWER ONE EIGHTH BLOCK/UPPER ONE EIGHTH BLOCK
1FB7E RIGHT AND /UPPER ONE EIGHTH BLOCK/LOWER ONE EIGHTH BLOCK
1FB80 /UPPER AND LOWER ONE EIGHTH BLOCK/HORIZONTAL ONE EIGHTH BLOCK-1358/UPPER ONE QUARTER BLOCK
1FB83 UPPER /THREE EIGHTHS BLOCK/FIVE EIGHTHS BLOCK/THREE QUARTERS BLOCK/SEVEN EIGHTHS BLOCK
1FB87 RIGHT /ONE QUARTER BLOCK/THREE EIGHTHS BLOCK/FIVE EIGHTHS BLOCK/THREE QUARTERS BLOCK
1FB8B /RIGHT SEVEN EIGHTHS BLOCK/LEFT HALF MEDIUM SHADE/RIGHT HALF MEDIUM SHADE
1FB8E /UPPER HALF MEDIUM SHADE/LOWER HALF MEDIUM SHADE/INVERSE MEDIUM SHADE
1FB91 /UPPER HALF BLOCK AND LOWER HALF INVERSE MEDIUM SHADE
1FB92 /UPPER HALF INVERSE MEDIUM SHADE AND LOWER HALF BLOCK
1FB94 /LEFT HALF INVERSE MEDIUM SHADE AND RIGHT HALF BLOCK/CHECKER BOARD FILL
1FB96 /INVERSE CHECKER BOARD FILL/HEAVY HORIZONTAL FILL
1FB98 UPPER /LEFT TO LOWER RIGHT FILL/RIGHT TO LOWER LEFT FILL/AND LOWER TRIANGULAR HALF BLOCK
1FB9B /LEFT AND RIGHT TRIANGULAR HALF BLOCK
1FB9C UPPER /LEFT TRIANGULAR MEDIUM SHADE/RIGHT TRIANGULAR MEDIUM SHADE
1FB9E LOWER /RIGHT TRIANGULAR MEDIUM SHADE/LEFT TRIANGULAR MEDIUM SHADE
1FBA0 BOX DRAWINGS LIGHT DIAGONAL UPPER CENTRE TO MIDDLE /LEFT/RIGHT
1FBA2 BOX DRAWINGS LIGHT DIAGONAL MIDDLE /LEFT TO LOWER CENTRE/RIGHT TO LOWER CENTRE
1FBA4 /BOX DRAWINGS LIGHT DIAGONAL UPPER CENTRE TO MIDDLE LEFT TO LOWER CENTRE
1FBA5 /BOX DRAWINGS LIGHT DIAGONAL UPPER CENTRE TO MIDDLE RIGHT TO LOWER CENTRE
1FBA6 /BOX DRAWINGS LIGHT DIAGONAL MIDDLE LEFT TO LOWER CENTRE TO MIDDLE RIGHT
1FBA7 /BOX DRAWINGS LIGHT DIAGONAL MIDDLE LEFT TO UPPER CENTRE TO MIDDLE RIGHT
1FBA8 /BOX DRAWINGS LIGHT DIAGONAL UPPER CENTRE TO MIDDLE LEFT AND MIDDLE RIGHT TO LOWER CENTRE
1FBA9 /BOX DRAWINGS LIGHT DIAGONAL UPPER CENTRE TO MIDDLE RIGHT AND MIDDLE LEFT TO LOWER CENTRE
1FBAA /BOX DRAWINGS LIGHT DIAGONAL UPPER CENTRE TO MIDDLE RIGHT TO LOWER CENTRE TO MIDDLE LEFT
1FBAB /BOX DRAWINGS LIGHT DIAGONAL UPPER CENTRE TO MIDDLE LEFT TO LOWER CENTRE TO MIDDLE RIGHT
1FBAC /BOX DRAWINGS LIGHT DIAGONAL MIDDLE LEFT TO UPPER CENTRE TO MIDDLE RIGHT TO LOWER CENTRE
1FBAD /BOX DRAWINGS LIGHT DIAGONAL MIDDLE RIGHT TO UPPER CENTRE TO MIDDLE LEFT TO LOWER CENTRE
1FBAE BOX DRAWINGS LIGHT /DIAGONAL DIAMOND/HORIZONTAL WITH VERTICAL STROKE
1FBB0 /ARROWHEAD-SHAPED POINTER/INVERSE CHECK MARK/LEFT HALF RUNNING MAN/RIGHT HALF RUNNING MAN
1FBB4 /INVERSE DOWNWARDS ARROW WITH TIP LEFTWARDS
1FBB5 /LEFTWARDS ARROW AND UPPER AND LOWER ONE EIGHTH BLOCK
1FBB6 /RIGHTWARDS ARROW AND UPPER AND LOWER ONE EIGHTH BLOCK
1FBB7 /DOWNWARDS ARROW AND RIGHT ONE EIGHTH BLOCK/UPWARDS ARROW AND RIGHT ONE EIGHTH BLOCK
1FBB9 /LEFT HALF FOLDER/RIGHT HALF FOLDER/VOIDED GREEK CROSS/RIGHT OPEN SQUARED DOT
1FBBD NEGATIVE DIAGONAL /CROSS/MIDDLE RIGHT TO LOWER CENTRE/DIAMOND
1FBC0 /WHITE HEAVY SALTIRE WITH ROUNDED CORNERS/LEFT THIRD WHITE RIGHT POINTING INDEX
1FBC2 /MIDDLE THIRD WHITE RIGHT POINTING INDEX/RIGHT THIRD WHITE RIGHT POINTING INDEX
1FBC4 /NEGATIVE SQUARED QUESTION MARK/STICK FIGURE
1FBC6 STICK FIGURE /WITH ARMS RAISED/LEANING LEFT/LEANING RIGHT/WITH DRESS
1FBCA /WHITE UP-POINTING CHEVRON
1FBF0 SEGMENTED DIGIT /ZERO/ONE/TWO/THREE/FOUR/FIVE/SIX/SEVEN/EIGHT/NINE
E0001 /LANGUAGE TAG
E0020 TAG /SPACE/EXCLAMATION MARK/QUOTATION MARK/NUMBER SIGN/DOLLAR SIGN/PERCENT SIGN/AMPERSAND
E0027 TAG /APOSTROPHE/LEFT PARENTHESIS/RIGHT PARENTHESIS/ASTERISK/PLUS SIGN/COMMA/HYPHEN-MINUS
E002E TAG /FULL STOP/SOLIDUS
E0030 TAG DIGIT /ZERO/ONE/TWO/THREE/FOUR/FIVE/SIX/SEVEN/EIGHT/NINE
E003A TAG /COLON/SEMICOLON/LESS-THAN SIGN/EQUALS SIGN/GREATER-THAN SIGN/QUESTION MARK/COMMERCIAL AT
E0041 TAG LATIN CAPITAL LETTER /A/B/C/D/E/F/G/H/I/J/K/L/M/N/O/P/Q/R/S/T/U/V/W/X/Y/Z
E005B TAG /LEFT SQUARE BRACKET/REVERSE SOLIDUS/RIGHT SQUARE BRACKET/CIRCUMFLEX ACCENT/LOW LINE
E0060 /TAG GRAVE ACCENT
E0061 TAG LATIN SMALL LETTER /A/B/C/D/E/F/G/H/I/J/K/L/M/N/O/P/Q/R/S/T/U/V/W/X/Y/Z
E007B TAG /LEFT CURLY BRACKET/VERTICAL LINE/RIGHT CURLY BRACKET/TILDE
E007F /CANCEL TAG
E0100 VARIATION SELECTOR-/17/18/19/20/21/22/23/24/25/26/27/28/29/30/31/32/33/34/35/36/37/38/39/40
E0118 VARIATION SELECTOR-/41/42/43/44/45/46/47/48/49/50/51/52/53/54/55/56/57/58/59/60/61/62/63/64
E0130 VARIATION SELECTOR-/65/66/67/68/69/70/71/72/73/74/75/76/77/78/79/80/81/82/83/84/85/86/87/88
E0148 VARIATION SELECTOR-/89/90/91/92/93/94/95/96/97/98/99/100/101/102/103/104/105/106/107/108/109
E015D VARIATION SELECTOR-/110/111/112/113/114/115/116/117/118/119/120/121/122/123/124/125/126/127
E016F VARIATION SELECTOR-/128/129/130/131/132/133/134/135/136/137/138/139/140/141/142/143/144/145
E0181 VARIATION SELECTOR-/146/147/148/149/150/151/152/153/154/155/156/157/158/159/160/161/162/163
E0193 VARIATION SELECTOR-/164/165/166/167/168/169/170/171/172/173/174/175/176/177/178/179/180/181
E01A5 VARIATION SELECTOR-/182/183/184/185/186/187/188/189/190/191/192/193/194/195/196/197/198/199
E01B7 VARIATION SELECTOR-/200/201/202/203/204/205/206/207/208/209/210/211/212/213/214/215/216/217
E01C9 VARIATION SELECTOR-/218/219/220/221/222/223/224/225/226/227/228/229/230/231/232/233/234/235
E01DB VARIATION SELECTOR-/236/237/238/239/240/241/242/243/244/245/246/247/248/249/250/251/252/253
E01ED VARIATION SELECTOR-/254/255/256"

end NoteSchema.Text.CharName
