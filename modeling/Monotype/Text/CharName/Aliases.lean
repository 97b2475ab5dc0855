namespace Monotype.Text.CharName

def aliases : String := "
=0aNULL=0aNULaSTART OF HEADING=1aSOHaSTART OF TEXT=2aSTXaEND OF TEXT=3aETXaEND OF TRANSMISSION=4aEOTaENQUIRY=5aENQ
aACKNOWLEDGE=6aACKaALERT=7aBELaBACKSPACE=8aBSaCHARACTER TABULATION=9aHORIZONTAL TABULATION=9aHT=9aTABaLINE FEED
=AaNEW LINE=AaEND OF LINE=AaEOL=AaLF=AaNLaLINE TABULATION=BaVERTICAL TABULATION=BaVTaFORM FEED=CaFFaCARRIAGE RETURN
=DaCRaSHIFT OUT=EaLOCKING-SHIFT ONE=EaSOaSHIFT IN=FaLOCKING-SHIFT ZERO=FaSIaDATA LINK ESCAPE=10aDLE
aDEVICE CONTROL ONE=11aDC1aDEVICE CONTROL TWO=12aDC2aDEVICE CONTROL THREE=13aDC3aDEVICE CONTROL FOUR=14aDC4
aNEGATIVE ACKNOWLEDGE=15aNAKaSYNCHRONOUS IDLE=16aSYNaEND OF TRANSMISSION BLOCK=17aETBaCANCEL=18aCANaEND OF MEDIUM
=19aEOMaSUBSTITUTE=1AaSUBaESCAPE=1BaESCaINFORMATION SEPARATOR FOUR=1CaFILE SEPARATOR=1CaFS
aINFORMATION SEPARATOR THREE=1DaGROUP SEPARATOR=1DaGSaINFORMATION SEPARATOR TWO=1EaRECORD SEPARATOR=1EaRS
aINFORMATION SEPARATOR ONE=1FaUNIT SEPARATOR=1FaUSaSP=7FaDELETE=7FaDELaPADDING CHARACTER=80aPADaHIGH OCTET PRESET
=81aHOPaBREAK PERMITTED HERE=82aBPHaNO BREAK HERE=83aNBHaINDEX=84aINDaNEXT LINE=85aNELaSTART OF SELECTED AREA=86aSSA
aEND OF SELECTED AREA=87aESAaCHARACTER TABULATION SET=88aHORIZONTAL TABULATION SET=88aHTS
aCHARACTER TABULATION WITH JUSTIFICATION=89aHORIZONTAL TABULATION WITH JUSTIFICATION=89aHTJaLINE TABULATION SET
=8AaVERTICAL TABULATION SET=8AaVTSaPARTIAL LINE FORWARD=8BcDOWN=8BaPLDaPARTIAL LINE BACKWARD=8CcUP=8CaPLU
aREVERSE LINE FEED=8DbINDEX=8DaRIaSINGLE SHIFT TWO=8EaSINGLE-SHIFT-2=8EaSS2aSINGLE SHIFT THREE=8FaSINGLE-SHIFT-3
=8FaSS3aDEVICE CONTROL STRING=90aDCSaPRIVATE USE ONE=91bUSE-1=91aPU1aPRIVATE USE TWO=92bUSE-2=92aPU2
aSET TRANSMIT STATE=93aSTSaCANCEL CHARACTER=94aCCHaMESSAGE WAITING=95aMWaSTART OF GUARDED AREA=96cPROTECTED AREA
=96aSPAaEND OF GUARDED AREA=97cPROTECTED AREA=97aEPAaSTART OF STRING=98aSOSaSINGLE GRAPHIC CHARACTER INTRODUCER
=99aSGCaSINGLE CHARACTER INTRODUCER=9AaSCIaCONTROL SEQUENCE INTRODUCER=9BaCSIaSTRING TERMINATOR=9CaST
aOPERATING SYSTEM COMMAND=9DaOSCaPRIVACY MESSAGE=9EaPMaAPPLICATION PROGRAM COMMAND=9FaAPCaNBSP=ADaSHY
=1A2aLATIN CAPITAL LETTER GHAbSMALL LETTER GHA=34FaCGJ=61CaALM=709aSYRIAC SUBLINEAR COLON SKEWED LEFT
=CDEaKANNADA LETTER LLLA=E9DaLAO LETTER FO FON=E9FdFAY=EA3cRO=EA5cLO=FD0aTIBETAN MARK BKA- SHOG GI MGO RGYAN
=11ECaHANGUL JONGSEONG YESIEUNG-KIYEOKcYESIEUNG-SSANGKIYEOKcSSANGYESIEUNGcYESIEUNG-KHIEUKH=180BaFVS1aFVS2aFVS3aMVS
aFVS4=200BaZWSPaZWNJaZWJaLRMaRLM=202AaLREaRLEaPDFaLROaRLOaNNBSP=205FaMMSPaWJ=2066aLRIaRLIaFSIaPDI
=2118aWEIERSTRASS ELLIPTIC FUNCTION=2448aMICR ON US SYMBOLbDASH SYMBOL
=2B7AaLEFTWARDS TRIANGLE-HEADED ARROW WITH DOUBLE VERTICAL STROKE
=2B7CaRIGHTWARDS TRIANGLE-HEADED ARROW WITH DOUBLE VERTICAL STROKE=A015aYI SYLLABLE ITERATION MARK
=AA6EaMYANMAR LETTER KHAMTI LLA=FE00aVS1aVS2aVS3aVS4aVS5aVS6aVS7aVS8aVS9aVS10aVS11aVS12aVS13aVS14aVS15aVS16
=FE18aPRESENTATION FORM FOR VERTICAL RIGHT WHITE LENTICULAR BRACKET=FEFFaBYTE ORDER MARK=FEFFaBOM=FEFFaZWNBSP
=122D4aCUNEIFORM SIGN NU11 TENUdOVER NU11 BUR OVER BUR=16E56aMEDEFAIDRIN CAPITAL LETTER HdNG=16E76bSMALL LETTER HdNG
=1B001aHENTAIGANA LETTER E-1=1D0C5aBYZANTINE MUSICAL SYMBOL FTHORA SKLIRON CHROMA VASIS=E0100aVS17aVS18aVS19aVS20
aVS21aVS22aVS23aVS24aVS25aVS26aVS27aVS28aVS29aVS30aVS31aVS32aVS33aVS34aVS35aVS36aVS37aVS38aVS39aVS40aVS41aVS42aVS43
aVS44aVS45aVS46aVS47aVS48aVS49aVS50aVS51aVS52aVS53aVS54aVS55aVS56aVS57aVS58aVS59aVS60aVS61aVS62aVS63aVS64aVS65aVS66
aVS67aVS68aVS69aVS70aVS71aVS72aVS73aVS74aVS75aVS76aVS77aVS78aVS79aVS80aVS81aVS82aVS83aVS84aVS85aVS86aVS87aVS88aVS89
aVS90aVS91aVS92aVS93aVS94aVS95aVS96aVS97aVS98aVS99aVS100aVS101aVS102aVS103aVS104aVS105aVS106aVS107aVS108aVS109aVS110
aVS111aVS112aVS113aVS114aVS115aVS116aVS117aVS118aVS119aVS120aVS121aVS122aVS123aVS124aVS125aVS126aVS127aVS128aVS129
aVS130aVS131aVS132aVS133aVS134aVS135aVS136aVS137aVS138aVS139aVS140aVS141aVS142aVS143aVS144aVS145aVS146aVS147aVS148
aVS149aVS150aVS151aVS152aVS153aVS154aVS155aVS156aVS157aVS158aVS159aVS160aVS161aVS162aVS163aVS164aVS165aVS166aVS167
aVS168aVS169aVS170aVS171aVS172aVS173aVS174aVS175aVS176aVS177aVS178aVS179aVS180aVS181aVS182aVS183aVS184aVS185aVS186
aVS187aVS188aVS189aVS190aVS191aVS192aVS193aVS194aVS195aVS196aVS197aVS198aVS199aVS200aVS201aVS202aVS203aVS204aVS205
aVS206aVS207aVS208aVS209aVS210aVS211aVS212aVS213aVS214aVS215aVS216aVS217aVS218aVS219aVS220aVS221aVS222aVS223aVS224
aVS225aVS226aVS227aVS228aVS229aVS230aVS231aVS232aVS233aVS234aVS235aVS236aVS237aVS238aVS239aVS240aVS241aVS242aVS243
aVS244aVS245aVS246aVS247aVS248aVS249aVS250aVS251aVS252aVS253aVS254aVS255aVS256"

end Monotype.Text.CharName
